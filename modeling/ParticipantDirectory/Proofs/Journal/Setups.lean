import ParticipantDirectory.Journal.Setup

/-!
# Setting up again

However often logging is set up, the root has one handler of the directory, that of the latest setup, behind those of
other owners, which stay in their order (`Logging.handlers_setups`): each setup keeps the others
(`Logging.others_setup`) and puts its own handler in the place of an earlier one, whether or not it can set the level.
So a record that reaches the root is written once, and under an id (`Record.jsonLine_stamp`, `Record.textLine_stamp`).
-/

namespace ParticipantDirectory

/-- What a setup is given: the name of a level, a format, and an id. -/
structure Logging.Setup where
  level : String
  format : String
  smpId : Option String

/-! ## The id of a line -/

namespace Record

variable {r : Record}

/-- The id under which a record is written: its own, or the given one if it has none. -/
def idUnder (smpId : String) (r : Record) : Json :=
  if r.context.smpId.isNull then .str smpId else r.context.smpId

theorem idUnder_present (smpId : String) (r : Record) : (r.idUnder smpId).isNull = false := by
  rw [idUnder]
  cases h : r.context.smpId.isNull with
  | true => rfl
  | false => exact h

/-- Stamping gives a record its id and changes nothing else. -/
theorem stamp_idUnder (smpId : String) (r : Record) :
    r.stamp smpId = { r with context := { r.context with smpId := r.idUnder smpId } } := by
  rw [stamp, idUnder]
  cases r.context.smpId.isNull <;> rfl

theorem toJson_eq (created : Calendar.Moment) (r : Record) : r.toJson created =
    .obj (("timestamp", .str created.render) :: r.members ++ r.exception.toList.map fun text =>
      ("exception", .str text)) := by
  rw [toJson]
  cases r.exception <;> rfl

/-- The line of JSON of a stamped record has the id, and only once. -/
theorem jsonLine_stamp (smpId : String) (created : Calendar.Moment) (r : Record) :
    ∃ rest, (r.stamp smpId).jsonLine created = (Json.obj
        (("timestamp", .str created.render) :: ("level", .str r.levelName) :: ("logger", .str r.logger) ::
          ("message", .str r.message) :: ("smp_id", r.idUnder smpId) :: rest)).render ∧
      ∀ m ∈ rest, m.1 ≠ "smp_id" := by
  let others : List (String × Json) := [("operation", r.context.operation),
    ("service_group_id", r.context.serviceGroupId), ("error_code", r.context.errorCode),
    ("user_name", r.context.userName), ("path", r.context.path)]
  let exception : List (String × Json) := r.exception.toList.map fun text => ("exception", .str text)
  refine ⟨others.filter (fun f => !f.2.isNull) ++ exception, ?_, fun m hm => ?_⟩
  · have hpresent : (("smp_id", r.idUnder smpId) :: others).filter (fun f => !f.2.isNull) =
        ("smp_id", r.idUnder smpId) :: others.filter fun f => !f.2.isNull :=
      List.filter_cons_of_pos (by rw [idUnder_present]; rfl)
    rw [jsonLine, stamp_idUnder, toJson_eq]
    show (Json.obj (_ :: _ :: _ :: _ :: (("smp_id", r.idUnder smpId) :: others).filter (fun f => !f.2.isNull) ++
      exception)).render = _
    rw [hpresent]
    rfl
  · rcases List.mem_append.1 hm with hm | hm
    · have hm := (List.mem_filter.1 hm).1
      simp only [others, List.mem_cons, List.not_mem_nil, or_false] at hm
      rcases hm with rfl | rfl | rfl | rfl | rfl <;> simp
    · obtain ⟨text, -, rfl⟩ := List.mem_map.1 hm
      exact (by decide : "exception" ≠ "smp_id")

/-- The text of an exception follows the line of a record. -/
theorem textLine_starts (time : String) (r : Record) :
    ∃ rest, r.textLine time =
      time ++ " " ++ r.levelName ++ " [" ++ r.context.smpId.shown ++ "] " ++ r.logger ++ ": " ++ r.message ++ rest := by
  rw [textLine]
  cases r.exception with
  | none => exact ⟨"", String.append_empty.symm⟩
  | some text =>
    dsimp only
    split
    · exact ⟨text, rfl⟩
    · exact ⟨"\n" ++ text, String.append_assoc⟩

/-- The line of text of a stamped record has the id in brackets. -/
theorem textLine_stamp (smpId time : String) (r : Record) :
    ∃ rest, (r.stamp smpId).textLine time =
      time ++ " " ++ r.levelName ++ " [" ++ (r.idUnder smpId).shown ++ "] " ++ r.logger ++ ": " ++ r.message ++
        rest := by
  rw [stamp_idUnder]
  exact textLine_starts time _

end Record

/-! ## The handlers -/

namespace Logging

variable {l : Logging}

/-- The handlers of other owners, which do not have the name of the handler of the directory. -/
def others (l : Logging) : List RootHandler :=
  l.handlers.filter (·.name? ≠ some RootHandler.ownName)

/-- The faults of setups one after the other, and what is set up then. -/
def setups (l : Logging) : List Setup → List (Option LevelFault) × Logging
  | [] => ([], l)
  | c :: rest =>
    let (fault, l₁) := l.setup c.level c.format c.smpId
    let (faults, l₂) := l₁.setups rest
    (fault :: faults, l₂)

/-- The handlers do not depend on the level, which may not be one. -/
theorem handlers_setup (c : Setup) (l : Logging) :
    (setup c.level c.format c.smpId l).2.handlers = l.others ++ [.own (handlerOf c.format c.smpId)] := by
  rw [setup]
  cases LevelName.find c.level <;> rfl

theorem others_setup (c : Setup) (l : Logging) : (setup c.level c.format c.smpId l).2.others = l.others := by
  rw [others, handlers_setup, others, List.filter_append, List.filter_filter]
  simp [RootHandler.name?]

theorem setups_concat (l : Logging) (calls : List Setup) (c : Setup) :
    (l.setups (calls ++ [c])).2 = (setup c.level c.format c.smpId (l.setups calls).2).2 := by
  induction calls generalizing l with
  | nil => rfl
  | cons first rest ih => exact ih (setup first.level first.format first.smpId l).2

theorem others_setups (l : Logging) (calls : List Setup) : (l.setups calls).2.others = l.others := by
  induction calls generalizing l with
  | nil => rfl
  | cons c rest ih => exact (ih _).trans (others_setup c l)

/-- After setups there is the handler of the last one, behind those of other owners. -/
theorem handlers_setups (l : Logging) (calls : List Setup) (last : Setup) :
    (l.setups (calls ++ [last])).2.handlers = l.others ++ [.own (handlerOf last.format last.smpId)] := by
  rw [setups_concat, handlers_setup, others_setups]

/-- The handlers of other owners write no lines of the directory. -/
theorem own_others (l : Logging) : l.others.filterMap RootHandler.own? = [] := by
  refine List.filterMap_eq_nil_iff.2 fun h hm => ?_
  cases h with
  | own h => exact absurd rfl (of_decide_eq_true (List.mem_filter.1 hm).2)
  | foreign name => rfl

theorem lines_setups (l : Logging) (calls : List Setup) (last : Setup) (clock : Calendar.Moment → String)
    (created : Calendar.Moment) (r : Record) :
    let l' := (l.setups (calls ++ [last])).2
    l'.lines clock created r =
      if l'.admits r then [(handlerOf last.format last.smpId).line clock created r] else [] := by
  intro l'
  rw [lines, handlers_setups, List.filterMap_append, own_others]
  rfl

theorem handlerOf_eq (format : String) (smpId : Option String) : handlerOf format smpId =
    ⟨format = "json", match smpId with
      | some id => if id = "" then "-" else id
      | none => "-"⟩ := by
  cases smpId <;> rfl

/-! ## Main statement -/

/-- After any setups, whichever of them could not set the level, the root has one handler of the directory, with the
format and the id of the last one, behind the handlers of other owners in their order. A record that reaches the root is
written once by it, as JSON or as text, with the id of the record, or that of the handler if the record has none. -/
theorem setups_keep_output (l : Logging) (calls : List Setup) (last : Setup) :
    let l' := (l.setups (calls ++ [last])).2
    let id := match last.smpId with
      | some id => if id = "" then "-" else id
      | none => "-"
    l'.handlers = l.handlers.filter (·.name? ≠ some RootHandler.ownName) ++ [.own ⟨last.format = "json", id⟩] ∧
      l'.handlers.filterMap RootHandler.own? = [⟨last.format = "json", id⟩] ∧
      ∀ clock created r,
        let shown := if r.context.smpId.isNull then .str id else r.context.smpId
        if l'.admits r then
          ∃ line, l'.lines clock created r = [line] ∧
            if last.format = "json" then
              ∃ rest, (∀ m ∈ rest, m.1 ≠ "smp_id") ∧ line = (Json.obj
                (("timestamp", .str created.render) :: ("level", .str r.levelName) :: ("logger", .str r.logger) ::
                  ("message", .str r.message) :: ("smp_id", shown) :: rest)).render
            else
              ∃ rest, line = clock created ++ " " ++ r.levelName ++ " [" ++ shown.shown ++ "] " ++ r.logger ++ ": " ++
                r.message ++ rest
        else l'.lines clock created r = [] := by
  intro l' id
  have hhandler : handlerOf last.format last.smpId = ⟨last.format = "json", id⟩ := handlerOf_eq _ _
  have hhandlers := handlers_setups l calls last
  have hlines := lines_setups l calls last
  rw [hhandler] at hhandlers hlines
  refine ⟨hhandlers, ?_, fun clock created r => ?_⟩
  · rw [hhandlers, List.filterMap_append, own_others]
    rfl
  · intro shown
    rw [hlines clock created r]
    by_cases hr : l'.admits r
    · rw [if_pos hr, if_pos hr]
      refine ⟨_, rfl, ?_⟩
      by_cases hjson : last.format = "json"
      · obtain ⟨rest, hline, hrest⟩ := Record.jsonLine_stamp id created r
        rw [if_pos hjson]
        refine ⟨rest, hrest, ?_⟩
        rw [Handler.line, if_pos (decide_eq_true hjson)]
        exact hline
      · obtain ⟨rest, hline⟩ := Record.textLine_stamp id (clock created) r
        rw [if_neg hjson]
        refine ⟨rest, ?_⟩
        rw [Handler.line, if_neg (by simpa using hjson)]
        exact hline
    · rw [if_neg hr, if_neg hr]

end Logging

end ParticipantDirectory
