import ParticipantDirectory.Journal.Setup
import ParticipantDirectory.Proofs.Json.Unbroken

/-!
# Lines of JSON

A record whose context is of texts (`Record.Textual`) is written as one line of JSON, from which everything that the
record shows can be read back: `Record.Shown` says which members that are, in which order and under which keys, and
`Record.Kept` says that a line keeps them. Every such record has a line that does (`Record.Textual.kept`), and a handler
of the directory writes it with an id of the directory (`Record.Textual.stamp_eq`). In the text of a whole journal the
lines are those of its records (`Logging.splitOn_output`), so no record can be taken for two or for another.
-/

namespace ParticipantDirectory

namespace Record

/-- Each part of the context is a text or absent. -/
def Textual (r : Record) : Prop :=
  ∀ f ∈ r.context.fields, f.2 = .null ∨ ∃ text, f.2 = .str text

/-- The keys under which a record may show something, in their order. -/
def keys : List String :=
  ["timestamp", "level", "logger", "message", "smp_id", "operation", "service_group_id", "error_code", "user_name",
    "path", "exception"]

/-- The members show a record of a moment: what they have in common, the parts of its context that are present, and its
exception if it has one. -/
structure Shown (created : Calendar.Moment) (r : Record) (members : List (String × Json)) : Prop where
  order : (members.map Prod.fst).Sublist keys
  mem_iff : ∀ m, m ∈ members ↔
    m ∈ [("timestamp", .str created.render), ("level", .str r.levelName), ("logger", .str r.logger),
        ("message", .str r.message)] ∨
      (m ∈ r.context.fields ∧ m.2 ≠ .null) ∨ ∃ text, r.exception = some text ∧ m = ("exception", .str text)

/-- The line is an object of distinct keys without a character below the space, and reading it gives the members that
show a record of a moment. -/
structure Kept (created : Calendar.Moment) (r : Record) (line : String) : Prop where
  unbroken : ∀ c ∈ line.toList, 0x20 ≤ c.toNat
  read : ∃ members, line = (Json.obj members).render ∧ (members.map Prod.fst).Nodup ∧
    (∀ depth, Json.read (depth + 1) line.toList = .ok (.obj members)) ∧ r.Shown created members

theorem isNull_eq_false_iff (v : Json) : (!v.isNull) = true ↔ v ≠ .null := by
  cases v <;> simp [Json.isNull]

/-- The members that are written. -/
def written (created : Calendar.Moment) (r : Record) : List (String × Json) :=
  ("timestamp", .str created.render) :: r.members ++
    (match r.exception with
      | some text => [("exception", .str text)]
      | none => [])

theorem shown_written (created : Calendar.Moment) (r : Record) : r.Shown created (r.written created) where
  order := by
    have hpresent : (r.context.present.map Prod.fst).Sublist (r.context.fields.map Prod.fst) :=
      List.filter_sublist.map _
    have hexception : ((match r.exception with
        | some text => [("exception", Json.str text)]
        | none => []).map Prod.fst).Sublist ["exception"] := by
      cases r.exception with
      | some text => exact List.Sublist.refl _
      | none => exact List.nil_sublist _
    rw [written, members, List.map_append]
    exact (((((hpresent.cons_cons "message").cons_cons "logger").cons_cons "level").cons_cons "timestamp").append hexception)
  mem_iff m := by
    have hexception : m ∈ (match r.exception with
        | some text => [("exception", Json.str text)]
        | none => []) ↔ ∃ text, r.exception = some text ∧ m = ("exception", .str text) := by
      cases r.exception <;> simp
    rw [written, members, List.mem_append, hexception]
    simp only [List.mem_cons, RecordContext.present, List.mem_filter, isNull_eq_false_iff, List.not_mem_nil, or_false,
      or_assoc]

theorem nodup_of_shown {created : Calendar.Moment} {r : Record} {members : List (String × Json)}
    (h : r.Shown created members) : (members.map Prod.fst).Nodup :=
  (by decide : keys.Nodup).sublist h.order

variable {r : Record}

theorem Textual.written (h : r.Textual) (created : Calendar.Moment) : Json.Textual 1 (.obj (r.written created)) := by
  refine .obj (fun m hm => ?_) (nodup_of_shown (shown_written created r))
  rcases ((shown_written created r).mem_iff m).1 hm with hm | ⟨hm, hne⟩ | ⟨text, -, rfl⟩
  · simp only [List.mem_cons, List.not_mem_nil, or_false] at hm
    rcases hm with rfl | rfl | rfl | rfl <;> exact .str 0 _
  · obtain ⟨text, he⟩ := (h m hm).resolve_left hne
    rw [he]
    exact .str 0 text
  · exact .str 0 text

/-- A record of texts is kept by its line of JSON. -/
theorem Textual.kept (h : r.Textual) (created : Calendar.Moment) : r.Kept created (r.jsonLine created) := by
  have hdoc := h.written created
  have hline : (r.jsonLine created).toList = (Json.obj (r.written created)).write := String.toList_ofList
  refine ⟨?_, r.written created, rfl, nodup_of_shown (shown_written created r), fun depth => ?_, shown_written created r⟩
  · rw [hline]
    exact Json.unbroken_write hdoc
  · rw [hline]
    exact Json.read_write hdoc (Nat.succ_le_succ (Nat.zero_le depth))

/-! ## The id of the directory -/

/-- The id of a stamped record is its own, or that of the directory if it has none; nothing else is changed. -/
theorem Textual.stamp_eq (h : r.Textual) (id : String) :
    ∃ own, r.stamp id = { r with context := { r.context with smpId := .str own } } ∧
      (r.context.smpId = .str own ∨ (r.context.smpId = .null ∧ own = id)) := by
  rcases h ("smp_id", r.context.smpId) (List.mem_cons_self ..) with hnull | ⟨own, hown⟩
  · dsimp only at hnull
    exact ⟨id, by rw [Record.stamp, hnull]; rfl, .inr ⟨hnull, rfl⟩⟩
  · dsimp only at hown
    have hpresent : r.context.smpId.isNull = false := by rw [hown]; rfl
    exact ⟨own, by rw [Record.stamp, hpresent, if_neg Bool.false_ne_true, ← hown], .inl hown⟩

theorem Textual.stamp (h : r.Textual) (id : String) : (r.stamp id).Textual := by
  obtain ⟨own, he, -⟩ := h.stamp_eq id
  rw [he]
  intro f hf
  rcases List.mem_cons.1 hf with rfl | hf
  · exact .inr ⟨own, rfl⟩
  · exact h f (List.mem_cons_of_mem _ hf)

/-- The line that a handler of the directory writes as JSON keeps the record with its id. -/
theorem Textual.kept_line (h : r.Textual) (id : String) (clock : Calendar.Moment → String)
    (created : Calendar.Moment) : (r.stamp id).Kept created (Handler.line ⟨true, id⟩ clock created r) :=
  (h.stamp id).kept created

end Record

/-! ## The journal as a text -/

/-- Lines are found again in the text in which each of them ends with a line feed. -/
theorem splitOn_lines {ls : List (List Char)} (h : ∀ l ∈ ls, '\n' ∉ l) :
    (ls.flatMap (· ++ ['\n'])).splitOn '\n' = ls ++ [[]] := by
  induction ls with
  | nil => rfl
  | cons l rest ih =>
    obtain ⟨hl, hrest⟩ := List.forall_mem_cons.1 h
    rw [List.flatMap_cons, List.append_assoc, List.singleton_append, List.splitOn_append_cons_self_of_not_mem hl,
      ih hrest]
    rfl

namespace Logging

variable {l : Logging} {clock : Calendar.Moment → String}

theorem toList_output (created : Calendar.Moment) (r : Record) :
    (l.output clock created r).toList = (l.lines clock created r).flatMap fun line => line.toList ++ ['\n'] := by
  rw [output, String.toList_join, List.flatMap_map]
  simp only [String.toList_append]
  rfl

/-- A handler that writes JSON writes no line feed into a line. -/
theorem no_line_feed (hl : ∀ h, .own h ∈ l.handlers → h.json = true) {created : Calendar.Moment} {r : Record}
    (hr : r.Textual) {line : String} (hline : line ∈ l.lines clock created r) : '\n' ∉ line.toList := by
  rw [lines] at hline
  split at hline
  · obtain ⟨⟨json, id⟩, hh, rfl⟩ := List.mem_map.1 hline
    obtain ⟨handler, hm, he⟩ := List.mem_filterMap.1 hh
    cases handler with
    | foreign name => cases he
    | own h =>
      cases he
      obtain rfl : json = true := hl _ hm
      exact fun hfeed => absurd ((hr.kept_line id clock created).unbroken _ hfeed) (by decide)
  · cases hline

/-- The lines of a journal that is written as JSON are those of its records, in their order. -/
theorem splitOn_output (hl : ∀ h, .own h ∈ l.handlers → h.json = true) {noted : List (Calendar.Moment × Record)}
    (hn : ∀ n ∈ noted, n.2.Textual) :
    (String.join (noted.map fun n => l.output clock n.1 n.2)).toList.splitOn '\n' =
      (noted.flatMap fun n => l.lines clock n.1 n.2).map String.toList ++ [[]] := by
  have htext : (String.join (noted.map fun n => l.output clock n.1 n.2)).toList =
      ((noted.flatMap fun n => l.lines clock n.1 n.2).map String.toList).flatMap (· ++ ['\n']) := by
    simp only [String.toList_join, List.flatMap_map, List.flatMap_assoc, toList_output]
  rw [htext, splitOn_lines]
  intro text ht
  obtain ⟨line, hline, rfl⟩ := List.mem_map.1 ht
  obtain ⟨n, hm, hline⟩ := List.mem_flatMap.1 hline
  exact no_line_feed hl (hn n hm) hline

end Logging

end ParticipantDirectory
