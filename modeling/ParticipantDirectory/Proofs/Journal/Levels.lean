import Mathlib.Data.List.Induction
import ParticipantDirectory.Proofs.Journal.Setups
import ParticipantDirectory.Proofs.Text.Raised
import ParticipantDirectory.Server

/-!
# Levels by their names

A level is named without regard to case. The library of the journal keeps other things than levels under names of its
own, but only under two of those that are in capitals, so that a text in upper case meets no other
(`LevelName.find_eq_lookup`, which rests on `Text.isLower_of_mem_toUpper`). These two are refused and leave the levels
as they are (`Logging.setup_unfit`); every other text sets the level that it names, or else that of ordinary records
(`Logging.setup_fit`). The level after any setups is that of the last text that was not refused
(`Logging.rootLevel_setups`), and a server starts under every other text (`Server.start_fit`, `Server.start_unfit`).
-/

namespace ParticipantDirectory

/-- The level that a name in capitals stands for; that of ordinary records if it is the name of none. -/
def Level.ofName : String → Level
  | "CRITICAL" | "FATAL" => .critical
  | "ERROR" => .error
  | "WARN" | "WARNING" => .warning
  | "INFO" => .info
  | "DEBUG" => .debug
  | "NOTSET" => .notSet
  | _ => .info

namespace LevelName

/-! ## What stands under a name -/

/-- What stands under the names in capitals that are not names of levels: the default template of a line and the table
of template styles. -/
def others : List (String × LevelName) :=
  [("BASIC_FORMAT", reserved basicTemplate), ("_STYLES", table styleTable)]

/-- What stands under the names in capitals. -/
def capitals : List (String × LevelName) :=
  levels.map (fun e => (e.1, level e.2)) ++ others

/-- What a library keeps under its names: what stands under the names in capitals, and anything under names with a small
letter. -/
structure Library (kept : String → Option LevelName) : Prop where
  capitals : ∀ e ∈ capitals, kept e.1 = some e.2
  small : ∀ name, kept name ≠ none → name ∈ LevelName.capitals.map Prod.fst ∨ ∃ c ∈ name.toList, c.isLower = true

/-- The text is not, without regard to case, the name of something else than a level. -/
def Fit (text : String) : Prop :=
  Text.toUpper text ≠ "BASIC_FORMAT" ∧ Text.toUpper text ≠ "_STYLES"

instance (text : String) : Decidable (Fit text) :=
  inferInstanceAs (Decidable (_ ∧ _))

theorem name_of_find? {α : Type} {kept : List (String × α)} {name : String} {e : String × α}
    (h : kept.find? (·.1 == name) = some e) : e.1 = name := by
  have hbeq := List.find?_some h
  exact eq_of_beq hbeq

/-- What a text stands for is looked up under the names in capitals. -/
theorem find_eq (text : String) :
    find text = ((capitals.find? (·.1 == Text.toUpper text)).map Prod.snd).getD (level .info) := by
  have hlevels : (levels.map fun e => (e.1, level e.2)).find? (·.1 == Text.toUpper text) =
      (levels.find? (·.1 == Text.toUpper text)).map fun e => (e.1, level e.2) := List.find?_map
  rw [find, capitals, List.find?_append, hlevels]
  cases levels.find? (·.1 == Text.toUpper text) with
  | some e => rfl
  | none =>
    dsimp only
    by_cases htemplate : Text.toUpper text = "BASIC_FORMAT"
    · rw [if_pos htemplate, htemplate]
      rfl
    · rw [if_neg htemplate]
      by_cases hstyles : Text.toUpper text = "_STYLES"
      · rw [if_pos hstyles, hstyles]
        rfl
      · have hothers : others.find? (·.1 == Text.toUpper text) = none := by
          simp [others, Ne.symm htemplate, Ne.symm hstyles]
        rw [if_neg hstyles, hothers]
        rfl

/-- Looking a text up among all that a library keeps, once it is in upper case, finds what it stands for. -/
theorem find_eq_lookup {kept : String → Option LevelName} (h : Library kept) (text : String) :
    find text = (kept (Text.toUpper text)).getD (level .info) := by
  rw [find_eq]
  cases hf : capitals.find? (·.1 == Text.toUpper text) with
  | some e =>
    rw [← name_of_find? hf, h.capitals e (List.mem_of_find?_eq_some hf)]
    rfl
  | none =>
    cases hk : kept (Text.toUpper text) with
    | none => rfl
    | some found =>
      rcases h.small _ (by rw [hk]; exact Option.some_ne_none _) with hn | ⟨c, hc, hl⟩
      · obtain ⟨e, he, hn⟩ := List.mem_map.1 hn
        exact absurd (beq_iff_eq.2 hn) (List.find?_eq_none.1 hf e he)
      · rw [Text.isLower_of_mem_toUpper hc] at hl
        cases hl

/-- A library that keeps a function under a name with small letters. -/
def withFunction (name : String) : Option LevelName :=
  if name = "getLogger" then some (.table "<function getLogger>") else (capitals.find? (·.1 == name)).map Prod.snd

theorem library_withFunction : Library withFunction where
  capitals := by decide +kernel
  small name h := by
    rw [withFunction] at h
    split at h
    · rename_i hn
      exact .inr ⟨'g', by rw [hn]; decide, by decide⟩
    · left
      cases hf : LevelName.capitals.find? (·.1 == name) with
      | none =>
        rw [hf] at h
        exact absurd rfl h
      | some e =>
        exact List.mem_map.2 ⟨e, List.mem_of_find?_eq_some hf, name_of_find? hf⟩

theorem ofName_of_mem : ∀ e ∈ levels, Level.ofName e.1 = e.2 := by
  decide

theorem ofName_of_not_mem {name : String} (h : ∀ e ∈ levels, e.1 ≠ name) : Level.ofName name = .info := by
  simp only [levels, List.forall_mem_cons] at h
  unfold Level.ofName
  split
  case h_9 => rfl
  all_goals simp at h

/-- A text that is fit stands for a level. -/
theorem find_fit {text : String} (h : Fit text) : find text = level (Level.ofName (Text.toUpper text)) := by
  rw [find]
  cases hf : levels.find? (·.1 == Text.toUpper text) with
  | some e =>
    rw [← name_of_find? hf, ofName_of_mem e (List.mem_of_find?_eq_some hf)]
  | none =>
    dsimp only
    rw [if_neg h.1, if_neg h.2, ofName_of_not_mem]
    exact fun e he hn => List.find?_eq_none.1 hf e he (beq_iff_eq.2 hn)

theorem find_unfit {text : String} (h : ¬ Fit text) :
    find text = reserved basicTemplate ∨ find text = table styleTable := by
  rw [find_eq]
  rcases Classical.not_and_iff_not_or_not.1 h with h | h
  · exact .inl (by rw [Classical.not_not.1 h]; rfl)
  · exact .inr (by rw [Classical.not_not.1 h]; rfl)

end LevelName

/-! ## Setups -/

namespace Logging

theorem setup_fit (l : Logging) {level : String} (h : LevelName.Fit level) (format : String) (smpId : Option String) :
    l.setup level format smpId = (none,
      { handlers := replaceOwn (handlerOf format smpId) l.handlers
        rootLevel := Level.ofName (Text.toUpper level)
        quietLevel := .warning }) := by
  rw [setup, LevelName.find_fit h]

/-- A setup with a text that is refused puts the handler in place and leaves the levels as they are. -/
theorem setup_unfit (l : Logging) {level : String} (h : ¬ LevelName.Fit level) (format : String)
    (smpId : Option String) :
    ∃ fault, l.setup level format smpId =
      (some fault, { l with handlers := replaceOwn (handlerOf format smpId) l.handlers }) := by
  rw [setup]
  rcases LevelName.find_unfit h with hf | hf
  · exact ⟨_, by rw [hf]⟩
  · exact ⟨_, by rw [hf]⟩

/-- The level of the last text that is not refused is what counts. -/
theorem rootLevel_setups (l : Logging) (calls : List Setup) :
    (l.setups calls).2.rootLevel =
      ((calls.reverse.find? fun c => LevelName.Fit c.level).map fun c =>
        Level.ofName (Text.toUpper c.level)).getD l.rootLevel := by
  induction calls using List.reverseRecOn with
  | nil => rfl
  | append_singleton calls c ih =>
    rw [setups_concat, List.reverse_concat, List.find?_cons]
    by_cases hc : LevelName.Fit c.level
    · rw [setup_fit _ hc, decide_eq_true hc]
      rfl
    · obtain ⟨fault, hs⟩ := setup_unfit (l.setups calls).2 hc c.format c.smpId
      rw [hs, decide_eq_false hc]
      exact ih

end Logging

/-! ## The start of a server -/

namespace Server

/-- A server starts as its preparation ends, with the level of its settings. -/
theorem start_fit {s : Settings} (h : LevelName.Fit s.logLevel) (rounds : Nat) (w : World Database) :
    (start s rounds w).map (·.logging.rootLevel) =
      ((prepare s rounds).runOn w).1.map fun _ => Level.ofName (Text.toUpper s.logLevel) := by
  rw [start, Logging.setup_fit _ h]
  dsimp only
  rcases (prepare s rounds).runOn w with ⟨f | directory, w'⟩ <;> rfl

/-- No server starts with a level that is refused. -/
theorem start_unfit {s : Settings} (h : ¬ LevelName.Fit s.logLevel) (rounds : Nat) (w : World Database) :
    ∃ a, start s rounds w = .error (.accident a) := by
  obtain ⟨fault, hs⟩ := Logging.setup_unfit Logging.initial h s.logFormat (some s.smpId)
  rw [start, hs]
  cases fault with
  | unknown text => exact ⟨_, rfl⟩
  | notLevel text => exact ⟨_, rfl⟩

end Server

/-! ## Main statement -/

/-- Whatever a library keeps under names with small letters, a text stands for what is found under it in upper case, or
for the level of ordinary records if nothing is. Unless that is one of the two names in capitals that are not names of
levels, a setup does not fail and sets this level; under these two it fails and leaves the level as it was. So after
setups the level is that of the last of them that did not fail, and a server that is started with the name of a level
fails only as its preparation does, but is never started under one of the two. -/
theorem level_set_or_refused (l : Logging) (level format : String) (smpId : Option String)
    (calls : List Logging.Setup) (s : Settings) (rounds : Nat) (w : World Database) :
    (∀ kept, LevelName.Library kept → LevelName.find level = (kept (Text.toUpper level)).getD (.level .info)) ∧
      (let done := l.setup level format smpId
        if LevelName.Fit level then
          done.1 = none ∧ done.2.rootLevel = Level.ofName (Text.toUpper level)
        else done.1 ≠ none ∧ done.2.rootLevel = l.rootLevel) ∧
      (l.setups calls).2.rootLevel =
        ((calls.reverse.find? fun c => LevelName.Fit c.level).map fun c =>
          Level.ofName (Text.toUpper c.level)).getD l.rootLevel ∧
      (if LevelName.Fit s.logLevel then
        (Server.start s rounds w).map (·.logging.rootLevel) =
          ((Server.prepare s rounds).runOn w).1.map fun _ => Level.ofName (Text.toUpper s.logLevel)
      else ∃ a, Server.start s rounds w = .error (.accident a)) := by
  refine ⟨fun kept h => LevelName.find_eq_lookup h level, ?_, Logging.rootLevel_setups l calls, ?_⟩
  · dsimp only
    split
    · rename_i h
      rw [Logging.setup_fit l h format smpId]
      exact ⟨rfl, rfl⟩
    · rename_i h
      obtain ⟨fault, hs⟩ := Logging.setup_unfit l h format smpId
      rw [hs]
      exact ⟨Option.some_ne_none fault, rfl⟩
  · split
    · rename_i h
      exact Server.start_fit h rounds w
    · rename_i h
      exact Server.start_unfit h rounds w

/-- A long s and the ligature of it with a t are small letters, but not ASCII letters, and their upper case is that of an
s and of these two letters. -/
theorem level_set_or_refused_of_long_s :
    LevelName.Library LevelName.withFunction ∧
      LevelName.find "notſet" = (LevelName.withFunction "NOTSET").getD (.level .info) ∧
      (Logging.initial.setup "notſet" "text" none).1 = none ∧
      (Logging.initial.setup "notſet" "text" none).2.rootLevel = .notSet ∧
      (Logging.initial.setups [⟨"debug", "json", none⟩, ⟨"_ﬅyles", "json", none⟩]).2.rootLevel = .debug ∧
      ∃ a, Server.start { Settings.default with logLevel := "_ﬅyles" } 1 { state := .fresh } = .error (.accident a) := by
  obtain ⟨hlookup, hsetup, hsetups, hstart⟩ := level_set_or_refused Logging.initial "notſet" "text" none
    [⟨"debug", "json", none⟩, ⟨"_ﬅyles", "json", none⟩] { Settings.default with logLevel := "_ﬅyles" } 1
    { state := .fresh }
  have hname : Text.toUpper "notſet" = "NOTSET" := by decide +kernel
  have hstyles : ¬ LevelName.Fit "_ﬅyles" := by decide +kernel
  rw [hname] at hlookup
  rw [if_pos (by decide +kernel)] at hsetup
  rw [if_neg hstyles] at hstart
  refine ⟨LevelName.library_withFunction, hlookup _ LevelName.library_withFunction, hsetup.1, ?_, ?_, hstart⟩
  · rw [hsetup.2, hname]
    rfl
  · rw [hsetups]
    decide +kernel

/-- Under the name of the default template of a line a setup fails, with the level left as it was, and a server does not
start. -/
theorem refused_under_name_of_template :
    let setup := Logging.initial.setup "basic_format" "json" (some "SMP-1")
    setup.1 = some (.unknown LevelName.basicTemplate) ∧ setup.2.rootLevel ≠ .info ∧
      Server.start { Settings.default with logLevel := "basic_format" } 1 { state := .fresh } =
        .error (.accident (.told .badValue "Unknown level: '%(levelname)s:%(name)s:%(message)s'")) := by
  intro setup
  refine ⟨by decide +kernel, by decide +kernel, ?_⟩
  rfl

end ParticipantDirectory
