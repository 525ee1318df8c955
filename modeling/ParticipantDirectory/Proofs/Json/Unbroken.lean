import ParticipantDirectory.Proofs.Json.Written

/-!
# Written documents stay on one line

The text of a document without numbers has no character below the space, whatever its strings and keys are
(`unbroken_write`): within quotes such characters stand as escapes (`escapeChar_cases`), and the writer puts none
between them.
-/

namespace ParticipantDirectory

namespace Json

/-- No character of the text stands below the space. -/
def Unbroken (s : List Char) : Prop :=
  ∀ c ∈ s, 0x20 ≤ c.toNat

theorem unbroken_nil : Unbroken [] :=
  fun _ h => nomatch h

theorem unbroken_of_all {s : List Char} (h : s.all (0x20 ≤ ·.toNat) = true) : Unbroken s :=
  fun c hc => of_decide_eq_true (List.all_eq_true.1 h c hc)

theorem Unbroken.append {s t : List Char} (hs : Unbroken s) (ht : Unbroken t) : Unbroken (s ++ t) :=
  fun c hc => (List.mem_append.1 hc).elim (hs c) (ht c)

theorem Unbroken.cons {c : Char} {s : List Char} (hc : 0x20 ≤ c.toNat) (hs : Unbroken s) : Unbroken (c :: s) :=
  List.forall_mem_cons.2 ⟨hc, hs⟩

theorem unbroken_fixed (width n : Nat) : Unbroken (Text.Hex.fixed width n) := by
  have hdigit : ∀ i : Fin 16, 0x20 ≤ (Text.Hex.digit i).toNat := by decide
  induction width generalizing n with
  | zero => exact unbroken_nil
  | succ width ih => exact (ih _).append (unbroken_nil.cons (hdigit ⟨n % 16, Nat.mod_lt n (by decide)⟩))

theorem le_of_shortEscape? {d c : Char} (h : shortEscape? d = some c) : 0x20 ≤ d.toNat := by
  unfold shortEscape? at h
  split at h
  all_goals first
    | decide
    | cases h

theorem unbroken_escapeChar (c : Char) : Unbroken (escapeChar c) := by
  rcases escapeChar_cases c with ⟨d, e, -, hd⟩ | ⟨e, -⟩ | ⟨e, -, -, hc⟩
  · rw [e]
    exact (unbroken_nil.cons (le_of_shortEscape? hd)).cons (by decide)
  · rw [e]
    exact ((unbroken_fixed 4 c.toNat).cons (by decide)).cons (by decide)
  · rw [e]
    exact unbroken_nil.cons (Nat.not_lt.1 hc)

theorem unbroken_writeString (s : List Char) : Unbroken (writeString s) := by
  have hbody : Unbroken (s.flatMap escapeChar) := by
    intro d hd
    obtain ⟨c, -, hd⟩ := List.mem_flatMap.1 hd
    exact unbroken_escapeChar c d hd
  exact (hbody.append (unbroken_nil.cons (by decide))).cons (by decide)

theorem unbroken_writeMoreItems {items : List Json} (h : ∀ v ∈ items, Unbroken (write v)) :
    Unbroken (writeMoreItems items) := by
  induction items with
  | nil => exact unbroken_nil
  | cons v rest ih =>
    obtain ⟨hv, hrest⟩ := List.forall_mem_cons.1 h
    exact ((hv.append (ih hrest)).cons (by decide)).cons (by decide)

theorem unbroken_member {key : String} {v : Json} {s : List Char} (hv : Unbroken (write v)) (hs : Unbroken s) :
    Unbroken (writeString key.toList ++ ':' :: ' ' :: write v ++ s) :=
  ((unbroken_writeString _).append ((hv.cons (by decide)).cons (by decide))).append hs

theorem unbroken_writeMoreMembers {members : List (String × Json)} (h : ∀ m ∈ members, Unbroken (write m.2)) :
    Unbroken (writeMoreMembers members) := by
  induction members with
  | nil => exact unbroken_nil
  | cons m rest ih =>
    obtain ⟨hm, hrest⟩ := List.forall_mem_cons.1 h
    exact ((unbroken_member hm (ih hrest)).cons (by decide)).cons (by decide)

/-- By induction over the document. -/
theorem unbroken_write {n : Nat} {v : Json} (h : Textual n v) : Unbroken (write v) := by
  have hend {c : Char} (hc : 0x20 ≤ c.toNat) : Unbroken [c] := unbroken_nil.cons hc
  induction h with
  | null n => exact unbroken_of_all rfl
  | bool n b => cases b <;> exact unbroken_of_all rfl
  | str n s => exact unbroken_writeString s.toList
  | @arr n items h ih =>
    have hitems : Unbroken (writeItems items) := by
      cases items with
      | nil => exact unbroken_nil
      | cons v rest =>
        obtain ⟨hv, hrest⟩ := List.forall_mem_cons.1 ih
        exact hv.append (unbroken_writeMoreItems hrest)
    exact (hitems.append (hend (by decide))).cons (by decide)
  | @obj n members h hk ih =>
    have hmembers : Unbroken (writeMembers members) := by
      cases members with
      | nil => exact unbroken_nil
      | cons m rest =>
        obtain ⟨hm, hrest⟩ := List.forall_mem_cons.1 ih
        exact unbroken_member hm (unbroken_writeMoreMembers hrest)
    exact (hmembers.append (hend (by decide))).cons (by decide)

end Json

end ParticipantDirectory
