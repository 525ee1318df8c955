import ParticipantDirectory.Json.Reader
import ParticipantDirectory.Json.Writer
import ParticipantDirectory.Proofs.Password

/-!
# Reading written documents

A document of whole texts without numbers in which no object has a key twice is read from its text as it is, if no more
lists and objects are open in it than the reader lets be open (`read_write`). A string is one token, whatever its
characters are (`scanString_written`): each escape stands for the character it was written for, and no two characters
are a pair of surrogates. `Advances` says what reading a text makes of what the reader wants, and sequences of texts are
read one after the other; a list and an object are read item by item and member by member, and a whole document by
induction over it (`Textual.reads`).
-/

namespace ParticipantDirectory

namespace Text.Encoding

/-- No character is a surrogate. -/
theorem not_surrogate (c : Char) : ¬(0xD800 ≤ c.toNat ∧ c.toNat < 0xE000) := by
  have hvalid : c.toNat < 0xD800 ∨ 0xDFFF < c.toNat ∧ c.toNat < 0x110000 := c.valid
  omega

theorem ofCode_toNat (c : Char) : Point.ofCode c.toNat = .char c := by
  have hc := not_surrogate c
  rw [Point.ofCode]
  split
  · rw [dif_neg (by omega), Char.ofNat_toNat]
  · rw [Char.ofNat_toNat]

/-- A text is read from the code points of its characters. -/
theorem ofUnits_toNat (s : List Char) : ofUnits (s.map Char.toNat) = s.map .char := by
  induction s with
  | nil => rfl
  | cons c rest ih =>
    cases rest with
    | nil => exact congrArg (fun p => [p]) (ofCode_toNat c)
    | cons d more =>
      have hpair : ¬(0xD800 ≤ c.toNat ∧ c.toNat < 0xDC00 ∧ 0xDC00 ≤ d.toNat ∧ d.toNat < 0xE000) := by
        have hc := not_surrogate c
        omega
      rw [List.map_cons, List.map_cons, ofUnits, if_neg hpair, ofCode_toNat, ← List.map_cons, ih]
      rfl

end Text.Encoding

namespace Text.Loose

theorem after_chars (before s : List Char) :
    after before (s.map .char) = whole (String.ofList (before.reverse ++ s)) := by
  induction s generalizing before with
  | nil => rw [List.map_nil, after, List.append_nil]
  | cons c rest ih => rw [List.map_cons, after, ih, List.reverse_cons, List.append_assoc, List.singleton_append]

/-- A sequence of characters is a whole text. -/
theorem ofPoints_chars (s : List Char) : ofPoints (s.map .char) = whole (String.ofList s) :=
  after_chars [] s

end Text.Loose

namespace Json

/-! ## Strings -/

theorem scanString_coded (start letter : Nat) {s : List Char} (hs : s ≠ []) (pos : Nat) :
    scanString start (.coded letter) s pos = scanString start .plain s pos := by
  cases s with
  | nil => exact absurd rfl hs
  | cons c rest => rw [scanString, scanString] <;> simp

/-- The digits of a code escape. -/
theorem scanString_code (start letter digits value : Nat) {c : Char} {n : Nat} (hc : Text.Hex.digitValue? c = some n)
    (s : List Char) (pos : Nat) : scanString start (.code letter digits value) (c :: s) pos =
      if digits = 3 then (scanString start (.coded letter) s (pos + 1)).cons (16 * value + n)
      else scanString start (.code letter (digits + 1) (16 * value + n)) s (pos + 1) := by
  rw [scanString, hc]

/-- Four digits of a code escape are read as the code. -/
theorem scanString_fixed (start letter : Nat) {n : Nat} (hn : n < 0x10000) {s : List Char} (hs : s ≠ []) (pos : Nat) :
    scanString start (.code letter 0 0) (Text.Hex.fixed 4 n ++ s) pos =
      (scanString start .plain s (pos + 4)).cons n := by
  have hfixed : Text.Hex.fixed 4 n = [Text.Hex.digit (n / 16 / 16 / 16 % 16), Text.Hex.digit (n / 16 / 16 % 16),
      Text.Hex.digit (n / 16 % 16), Text.Hex.digit (n % 16)] := rfl
  have hdigit : ∀ m, Text.Hex.digitValue? (Text.Hex.digit (m % 16)) = some (m % 16) := fun m =>
    Text.Hex.digitValue?_digit ⟨m % 16, Nat.mod_lt m (by decide)⟩
  have hvalue : 16 * (16 * (16 * (16 * 0 + n / 16 / 16 / 16 % 16) + n / 16 / 16 % 16) + n / 16 % 16) + n % 16 = n := by
    omega
  rw [hfixed, List.cons_append, List.cons_append, List.cons_append, List.cons_append, List.nil_append,
    scanString_code _ _ _ _ (hdigit _), if_neg (by decide), scanString_code _ _ _ _ (hdigit _), if_neg (by decide),
    scanString_code _ _ _ _ (hdigit _), if_neg (by decide), scanString_code _ _ _ _ (hdigit _), if_pos rfl, hvalue,
    scanString_coded start letter hs]

/-- A character is written as a short escape, as a code escape, or as itself. -/
theorem escapeChar_cases (c : Char) :
    (∃ d, escapeChar c = ['\\', d] ∧ d ≠ 'u' ∧ shortEscape? d = some c) ∨
      (escapeChar c = '\\' :: 'u' :: Text.Hex.fixed 4 c.toNat ∧ c.toNat < 0x10000) ∨
        escapeChar c = [c] ∧ c ≠ '"' ∧ c ≠ '\\' ∧ ¬c.toNat < 0x20 := by
  unfold escapeChar
  split
  · next h => exact .inl ⟨'"', rfl, by decide, by rw [h]; rfl⟩
  split
  · next h => exact .inl ⟨'\\', rfl, by decide, by rw [h]; rfl⟩
  split
  · next hcontrol =>
    split
    · next h => exact .inl ⟨'n', rfl, by decide, by rw [h]; rfl⟩
    split
    · next h => exact .inl ⟨'r', rfl, by decide, by rw [h]; rfl⟩
    split
    · next h => exact .inl ⟨'t', rfl, by decide, by rw [h]; rfl⟩
    split
    · next h => exact .inl ⟨'b', rfl, by decide, by rw [h]; rfl⟩
    split
    · next h => exact .inl ⟨'f', rfl, by decide, by rw [h]; rfl⟩
    · exact .inr (.inl ⟨rfl, Nat.lt_trans hcontrol (by decide)⟩)
  · next hquote hslash hcontrol => exact .inr (.inr ⟨rfl, hquote, hslash, hcontrol⟩)

/-- A character is read as it was written. -/
theorem scanString_escapeChar (start : Nat) (c : Char) {s : List Char} (hs : s ≠ []) (pos : Nat) :
    ∃ next, scanString start .plain (escapeChar c ++ s) pos = (scanString start .plain s next).cons c.toNat := by
  rcases escapeChar_cases c with ⟨d, e, hu, hd⟩ | ⟨e, hcode⟩ | ⟨e, hquote, hslash, hcontrol⟩
  · refine ⟨pos + 1 + 1, ?_⟩
    rw [e, List.cons_append, List.cons_append, List.nil_append, scanString, if_neg (by decide), if_pos rfl, scanString,
      if_neg hu, hd]
    · simp
    · simp
  · refine ⟨pos + 1 + 1 + 4, ?_⟩
    rw [e, List.cons_append, List.cons_append, scanString, if_neg (by decide), if_pos rfl, scanString, if_pos rfl,
      scanString_fixed start _ hcode hs]
    · simp
    · simp
  · refine ⟨pos + 1, ?_⟩
    rw [e, List.singleton_append, scanString, if_neg hquote, if_neg hslash, if_neg hcontrol]
    · simp
    · simp

/-- A string is read as it was written. -/
theorem scanString_written (start : Nat) (s rest : List Char) (pos : Nat) :
    ∃ next, scanString start .plain (s.flatMap escapeChar ++ '"' :: rest) pos =
      .closed (s.map Char.toNat) rest next := by
  induction s generalizing pos with
  | nil =>
    refine ⟨pos + 1, ?_⟩
    rw [List.flatMap_nil, List.nil_append, scanString, if_pos rfl]
    · rfl
    · simp
    · simp
  | cons c more ih =>
    obtain ⟨next, h⟩ := scanString_escapeChar start c (s := more.flatMap escapeChar ++ '"' :: rest) (by simp) pos
    obtain ⟨last, hmore⟩ := ih next
    refine ⟨last, ?_⟩
    rw [List.flatMap_cons, List.append_assoc, h, hmore]
    rfl

/-! ## Tokens -/

/-- Reading the text, the automaton goes on from one thing that is wanted to another. -/
def Advances (depth : Nat) (text : List Char) (w w' : Want) : Prop :=
  ∀ rest fuel pos, (text ++ rest).length ≤ fuel → ∃ fuel' pos', rest.length ≤ fuel' ∧
    (tokensFrom fuel (text ++ rest) pos).foldlM (fun w p => w.after depth p) w =
      (tokensFrom fuel' rest pos').foldlM (fun w p => w.after depth p) w'

variable {depth : Nat} {w w' : Want}

theorem Advances.append {w₁ w₂ w₃ : Want} {s s' : List Char} (h : Advances depth s w₁ w₂)
    (h' : Advances depth s' w₂ w₃) : Advances depth (s ++ s') w₁ w₃ := by
  intro rest fuel pos hfuel
  rw [List.append_assoc] at hfuel ⊢
  obtain ⟨fuel₁, pos₁, hfuel₁, e₁⟩ := h _ fuel pos hfuel
  obtain ⟨fuel₂, pos₂, hfuel₂, e₂⟩ := h' rest fuel₁ pos₁ hfuel₁
  exact ⟨fuel₂, pos₂, hfuel₂, e₁.trans e₂⟩

/-- A text that is one token. -/
theorem advances_token {c : Char} {s : List Char} {t : Token}
    (ht : ∀ rest fuel pos, ∃ pos', tokensFrom (fuel + 1) (c :: s ++ rest) pos = ⟨t, pos⟩ :: tokensFrom fuel rest pos')
    (h : ∀ pos, w.after depth ⟨t, pos⟩ = .ok w') : Advances depth (c :: s) w w' := by
  intro rest fuel pos hfuel
  cases fuel with
  | zero => cases hfuel
  | succ fuel =>
    obtain ⟨pos', e⟩ := ht rest fuel pos
    refine ⟨fuel, pos', ?_, ?_⟩
    · rw [List.length_append, List.length_cons] at hfuel
      omega
    · rw [e, List.foldlM_cons, h]
      rfl

theorem advances_mark {c : Char} {t : Token} (hc : isSpace c = false) (hm : mark? c = some t)
    (h : ∀ pos, w.after depth ⟨t, pos⟩ = .ok w') : Advances depth [c] w w' := by
  refine advances_token (fun rest fuel pos => ⟨pos + 1, ?_⟩) h
  rw [List.singleton_append, tokensFrom, hc, hm]
  rfl

theorem advances_space : Advances depth [' '] w w := by
  intro rest fuel pos hfuel
  cases fuel with
  | zero => cases hfuel
  | succ fuel => exact ⟨fuel, pos + 1, by simpa using hfuel, rfl⟩

/-- A written string is one token. -/
theorem advances_string {s : String} (h : ∀ pos, w.after depth ⟨.text (.whole s), pos⟩ = .ok w') :
    Advances depth (writeString s.toList) w w' := by
  refine advances_token (fun rest fuel pos => ?_) h
  obtain ⟨next, e⟩ := scanString_written pos s.toList rest (pos + 1)
  refine ⟨next, ?_⟩
  show tokensFrom (fuel + 1) ('"' :: (s.toList.flatMap escapeChar ++ ['"'] ++ rest)) pos = _
  rw [List.append_assoc, List.singleton_append, tokensFrom, e]
  dsimp only
  rw [Text.Encoding.ofUnits_toNat, Text.Loose.ofPoints_chars, String.ofList_toList]
  rfl

/-- A written name is one token. -/
theorem advances_name {c : Char} {s : List Char} {v : Json} (hc : isSpace c = false) (hm : mark? c = none)
    (hq : c ≠ '"') (hs : ∀ rest, takeName? (c :: s ++ rest) = some (v, rest))
    (h : ∀ pos, w.after depth ⟨.plain v, pos⟩ = .ok w') : Advances depth (c :: s) w w' := by
  refine advances_token (fun rest fuel pos => ⟨pos + ((c :: (s ++ rest)).length - rest.length), ?_⟩) h
  have hplain : takePlain? (c :: (s ++ rest)) = some (.plain v, rest) := by
    rw [takePlain?, ← List.cons_append, hs]
  rw [List.cons_append, tokensFrom, hc, hm]
  dsimp only
  rw [if_neg Bool.false_ne_true, if_neg hq, hplain]

/-! ## Documents -/

/-- A document of whole texts without numbers in which no object has a key twice and at most the given number of lists
and objects are open at any place. -/
inductive Textual : Nat → Json → Prop where
  | null (n : Nat) : Textual n .null
  | bool (n : Nat) (b : Bool) : Textual n (.bool b)
  | str (n : Nat) (s : String) : Textual n (.str s)
  | arr {n : Nat} {items : List Json} (h : ∀ v ∈ items, Textual n v) : Textual (n + 1) (.arr items)
  | obj {n : Nat} {members : List (String × Json)} (h : ∀ m ∈ members, Textual n m.2)
    (hk : (members.map Prod.fst).Nodup) : Textual (n + 1) (.obj members)

/-- A value is wanted, for the innermost of the places that wait for one. -/
def WantsValue (depth : Nat) (w : Want) (outer : List Slot) : Prop :=
  ∀ p : Placed, p.token ≠ .closeList → w.after depth p = afterValue depth p outer

/-- The document is read where a value is wanted. -/
def ReadsAs (depth n : Nat) (v : Json) : Prop :=
  ∀ w outer, WantsValue depth w outer → n + outer.length ≤ depth → Advances depth (write v) w (settle v outer)

theorem wantsValue (outer : List Slot) : WantsValue depth (.value outer) outer :=
  fun _ _ => rfl

theorem wantsValue_firstItem (outer : List Slot) : WantsValue depth (.firstItem outer) (.item [] :: outer) := by
  rintro ⟨t, pos⟩ ht
  cases t with
  | closeList => exact absurd rfl ht
  | _ => rfl

theorem advances_moreItems {n : Nat} {items : List Json} (h : ∀ v ∈ items, ReadsAs depth n v) {outer : List Slot}
    (hn : n + 1 + outer.length ≤ depth) (done : List Json) :
    Advances depth (writeMoreItems items) (.separator (.items done) outer)
      (.separator (.items (items.reverse ++ done)) outer) := by
  induction items generalizing done with
  | nil =>
    intro rest fuel pos hfuel
    exact ⟨fuel, pos, hfuel, rfl⟩
  | cons v rest ih =>
    have hcomma : Advances depth [','] (.separator (.items done) outer) (.value (.item done :: outer)) :=
      advances_mark rfl rfl fun _ => rfl
    have hv : Advances depth (write v) (.value (.item done :: outer)) (.separator (.items (v :: done)) outer) :=
      h v (List.mem_cons_self ..) _ _ (wantsValue _) (by rw [List.length_cons]; omega)
    have hrest := ih (fun u hu => h u (List.mem_cons_of_mem _ hu)) (v :: done)
    rw [List.reverse_cons, List.append_assoc, List.singleton_append]
    exact hcomma.append (advances_space.append (hv.append hrest))

/-- A new key is put at the end. -/
theorem setMember_new {key : String} {v : Json} {done : List (String × Json)} (h : key ∉ done.map Prod.fst) :
    setMember key v done = done ++ [(key, v)] := by
  induction done with
  | nil => rfl
  | cons m rest ih =>
    rw [List.map_cons, List.mem_cons, not_or] at h
    rw [setMember, if_neg (Ne.symm h.1), ih h.2]
    rfl

theorem readsAs_arr {n : Nat} {items : List Json} (h : ∀ v ∈ items, ReadsAs depth n v) :
    ReadsAs depth (n + 1) (.arr items) := by
  intro w outer hw hn
  have hopen : Advances depth ['['] w (.firstItem outer) := advances_mark rfl rfl fun pos => by
    rw [hw _ (by simp)]
    exact if_neg (by omega)
  cases items with
  | nil => exact hopen.append (advances_mark rfl rfl fun _ => rfl)
  | cons v rest =>
    have hv : Advances depth (write v) (.firstItem outer) (.separator (.items [v]) outer) :=
      h v (List.mem_cons_self ..) _ _ (wantsValue_firstItem outer) (by rw [List.length_cons]; omega)
    have hrest := advances_moreItems (fun u hu => h u (List.mem_cons_of_mem _ hu)) hn [v]
    have hclose : Advances depth [']'] (.separator (.items (rest.reverse ++ [v])) outer)
        (settle (.arr (v :: rest)) outer) := advances_mark rfl rfl fun pos => by
      simp [Want.after]
    exact hopen.append ((hv.append hrest).append hclose)

/-- The name and the value of a member. -/
theorem advances_member {n : Nat} {key : String} {v : Json} (h : ReadsAs depth n v) {outer : List Slot}
    (hn : n + 1 + outer.length ≤ depth) {done : List (String × Json)} (hk : key ∉ done.map Prod.fst)
    (hw : ∀ t pos, w.after depth ⟨.text t, pos⟩ = .ok (.colon done t outer)) :
    Advances depth (writeString key.toList ++ ':' :: ' ' :: write v) w
      (.separator (.members (done ++ [(key, v)])) outer) := by
  have hname : Advances depth (writeString key.toList) w (.colon done key outer) := advances_string (hw key)
  have hcolon : Advances depth [':'] (.colon done key outer) (.value (.member done key :: outer)) :=
    advances_mark rfl rfl fun _ => rfl
  have hv : Advances depth (write v) (.value (.member done key :: outer))
      (.separator (.members (done ++ [(key, v)])) outer) := by
    rw [← setMember_new hk]
    exact h _ _ (wantsValue _) (by rw [List.length_cons]; omega)
  exact hname.append (hcolon.append (advances_space.append hv))

theorem advances_moreMembers {n : Nat} {members : List (String × Json)} (h : ∀ m ∈ members, ReadsAs depth n m.2)
    {outer : List Slot} (hn : n + 1 + outer.length ≤ depth) (done : List (String × Json))
    (hk : ((done ++ members).map Prod.fst).Nodup) :
    Advances depth (writeMoreMembers members) (.separator (.members done) outer)
      (.separator (.members (done ++ members)) outer) := by
  induction members generalizing done with
  | nil =>
    intro rest fuel pos hfuel
    rw [List.append_nil]
    exact ⟨fuel, pos, hfuel, rfl⟩
  | cons m rest ih =>
    obtain ⟨key, v⟩ := m
    have hnew : key ∉ done.map Prod.fst := by
      rw [List.map_append, List.nodup_append] at hk
      exact fun hm => hk.2.2 key hm key (List.mem_cons_self ..) rfl
    have hcomma : Advances depth [','] (.separator (.members done) outer) (.name done outer) :=
      advances_mark rfl rfl fun _ => rfl
    have hmember : Advances depth (writeString key.toList ++ ':' :: ' ' :: write v) (.name done outer)
        (.separator (.members (done ++ [(key, v)])) outer) :=
      advances_member (h _ (List.mem_cons_self ..)) hn hnew fun _ _ => rfl
    have hrest := ih (fun m hm => h m (List.mem_cons_of_mem _ hm)) (done ++ [(key, v)]) (by simpa using hk)
    rw [List.append_assoc, List.singleton_append] at hrest
    have hall := hcomma.append (advances_space.append (hmember.append hrest))
    simpa [writeMoreMembers] using hall

theorem readsAs_obj {n : Nat} {members : List (String × Json)} (h : ∀ m ∈ members, ReadsAs depth n m.2)
    (hk : (members.map Prod.fst).Nodup) : ReadsAs depth (n + 1) (.obj members) := by
  intro w outer hw hn
  have hopen : Advances depth ['\x7b'] w (.firstName outer) := advances_mark rfl rfl fun pos => by
    rw [hw _ (by simp)]
    exact if_neg (by omega)
  cases members with
  | nil => exact hopen.append (advances_mark rfl rfl fun _ => rfl)
  | cons m rest =>
    obtain ⟨key, v⟩ := m
    have hnew : key ∉ ([] : List (String × Json)).map Prod.fst := List.not_mem_nil
    have hmember : Advances depth (writeString key.toList ++ ':' :: ' ' :: write v) (.firstName outer)
        (.separator (.members [(key, v)]) outer) :=
      advances_member (h _ (List.mem_cons_self ..)) hn hnew fun _ _ => rfl
    have hrest := advances_moreMembers (fun m hm => h m (List.mem_cons_of_mem _ hm)) hn [(key, v)] hk
    have hclose : Advances depth ['\x7d'] (.separator (.members ((key, v) :: rest)) outer)
        (settle (.obj ((key, v) :: rest)) outer) := advances_mark rfl rfl fun _ => rfl
    have hall := hopen.append ((hmember.append hrest).append hclose)
    simpa [write, writeMembers] using hall

/-- By induction over the document. -/
theorem Textual.reads {n : Nat} {v : Json} (h : Textual n v) (depth : Nat) : ReadsAs depth n v := by
  induction h with
  | null n =>
    intro w outer hw _
    exact advances_name rfl rfl (by decide) (fun _ => rfl) fun pos => hw ⟨.plain .null, pos⟩ (by simp)
  | bool n b =>
    intro w outer hw _
    cases b with
    | true =>
      exact advances_name rfl rfl (by decide) (fun _ => rfl) fun pos => hw ⟨.plain (.bool true), pos⟩ (by simp)
    | false =>
      exact advances_name rfl rfl (by decide) (fun _ => rfl) fun pos => hw ⟨.plain (.bool false), pos⟩ (by simp)
  | str n s =>
    intro w outer hw _
    exact advances_string fun pos => hw ⟨.text (.whole s), pos⟩ (by simp)
  | arr _ ih => exact readsAs_arr ih
  | obj _ hk ih => exact readsAs_obj ih hk

/-- A written document is read as it is. -/
theorem read_write {n : Nat} {v : Json} (h : Textual n v) {depth : Nat} (hn : n ≤ depth) :
    read depth (write v) = .ok v := by
  obtain ⟨fuel, pos, -, e⟩ := h.reads depth (.value []) [] (wantsValue []) hn [] (write v).length 0 (by simp)
  rw [List.append_nil] at e
  have hend : tokensFrom fuel [] pos = [] := by cases fuel <;> rfl
  rw [read, tokens, e, hend]
  rfl

end Json

end ParticipantDirectory
