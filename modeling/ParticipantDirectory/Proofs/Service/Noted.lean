import ParticipantDirectory.Proofs.Framework.Noting
import ParticipantDirectory.Proofs.Journal.Lines
import ParticipantDirectory.Proofs.Service.Counters

/-!
# What a call notes

A call notes what it is asked and how it ends, and its reported block notes its fault (`Call.Tells`); in all of these the
id stands as it was given. What its collaborators note goes to other loggers (`Record.Aside`), and their faults have texts
for codes (`Directory.noting_collaborators`). So every record of a call is a record of texts, and its line keeps them
(`lines_keep_records`).
-/

namespace ParticipantDirectory

open Action Transaction

variable {σ : Type}

namespace Operation

/-- The logger of an operation. -/
def logger : Operation → String
  | group _ => GroupService.logger
  | card _ => CardService.logger

/-- What stands before every message of an operation. -/
def mark : Operation → String
  | group _ => GroupService.mark
  | card _ => CardService.mark

/-- The context in which an operation notes what it does for an id; there is none on groups. -/
def context (id : String) : Operation → RecordContext
  | group _ => {}
  | card k => { operation := .str k.name, serviceGroupId := .str id }

/-- The loggers of the operations and of their reported blocks. -/
def loggers : List String :=
  [GroupService.logger, CardService.logger, Block.logger]

end Operation

namespace Call

/-- What a call can say of itself. -/
def texts : Call → List String
  | getGroup id => ["GET /servicegroup/" ++ id]
  | createGroup id _ _ => ["PUT /servicegroup/" ++ id]
  | deleteGroup id _ => ["DELETE /servicegroup/" ++ id]
  | getCard id => ["GET /businesscard/" ++ id, "Finished getBusinessCard(" ++ id ++ ")"]
  | createCard id payload _ =>
    let finished := "Finished createBusinessCard(" ++ id ++ "," ++ payload.summary ++ ")"
    ["PUT /businesscard/" ++ id ++ " ==> " ++ payload.summary, finished ++ " - failure", finished ++ " - success"]
  | deleteCard id _ => ["DELETE /businesscard/" ++ id, "Finished deleteBusinessCard(" ++ id ++ ")"]

end Call

/-- A record of texts that comes from a collaborator of the operations. -/
structure Record.Aside (r : Record) : Prop where
  textual : r.Textual
  logger : r.logger ∉ Operation.loggers

/-- The records of a call: what it says of itself, the fault of its reported block, and those of its collaborators. -/
inductive Call.Tells (call : Call) : Record → Prop
  | said {text : String} (h : text ∈ call.texts) (level : Level) : call.Tells
      { logger := call.kind.logger, level, message := call.kind.mark ++ text, context := call.kind.context call.id }
  | refused (reason code : String) : call.Tells
      { logger := Block.logger, level := .warning
        message := call.kind.mark ++ call.kind.name ++ "(" ++ call.id ++ ") failed: " ++ reason
        context :=
          { operation := .str call.kind.name, serviceGroupId := .str call.id, errorCode := .str code } }
  | aside {r : Record} (h : r.Aside) : call.Tells r

/-- The records of a call are records of texts. -/
theorem Call.Tells.textual {call : Call} {r : Record} (h : call.Tells r) : r.Textual := by
  cases h with
  | said _ level => cases call <;> simp [Record.Textual, RecordContext.fields, Call.kind, Operation.context]
  | refused reason code => simp [Record.Textual, RecordContext.fields]
  | aside h => exact h.textual

/-- The fault of a reported block. -/
theorem Call.tells_record {call : Call} {b : Block} {f : Fault} (hf : f.Coded)
    (hb : b.mark = call.kind.mark ∧ b.operation = call.kind.name ∧ b.serviceGroupId = call.id) :
    call.Tells (b.record f) := by
  obtain ⟨code, hcode⟩ := hf
  obtain ⟨hm, ho, hi⟩ := hb
  rw [Block.record, hm, ho, hi, hcode]
  exact .refused _ _

/-! ## Operations -/

section operations

variable {P : Record → Prop} {c : Collaborators σ}

/-- The operations of a store note records of which `P` holds. -/
structure CardStore.Noting (P : Record → Prop) (s : CardStore σ) : Prop where
  ofGroup (g : ServiceGroup) : (s.ofGroup g).Notes P fun _ => True
  ofId (id : String) : (s.ofId id).Notes P fun _ => True
  put (g : ServiceGroup) (entities : List StoredEntity) : (s.put g entities).Notes P fun _ => True
  delete (card : BusinessCard) : (s.delete card).Notes P fun _ => True

/-- The collaborators note records of which `P` holds. -/
structure Collaborators.Noting (P : Record → Prop) (c : Collaborators σ) : Prop where
  findGroup (p : Identifier) : (c.findGroup p).Notes P fun _ => True
  createGroup (p : Identifier) (owner : User) (extension : Option String) :
    (c.createGroup p owner extension).Notes P fun _ => True
  deleteGroup (p : Identifier) : (c.deleteGroup p).Notes P fun _ => True
  authenticate (credentials : Option Credentials) : (c.authenticate credentials).Notes P fun _ => True
  verifyOwner (p : Identifier) (user : User) : (c.verifyOwner p user).Notes P fun _ => True
  cards : ∀ s ∈ c.cards, s.Noting P

namespace Collaborators.Noting

theorem parse (id : String) : (c.parse id).Notes P fun _ => True :=
  (notes_orFail rfl _).mono (fun _ h => h) fun _ _ => trivial

variable (hc : c.Noting P)
include hc

theorem requireGroup (id : String) (p : Identifier) : (c.requireGroup id p).Notes P fun _ => True :=
  (hc.findGroup p).bind fun _ _ => (notes_orFail rfl _).mono (fun _ h => h) fun _ _ => trivial

theorem requireCards : c.requireCards.Notes P (CardStore.Noting P) :=
  (notes_orFail rfl _).mono (fun _ h => h) hc.cards

theorem requireOwner (p : Identifier) (credentials : Option Credentials) :
    (c.requireOwner p credentials).Notes P fun _ => True :=
  (hc.authenticate credentials).bind fun user _ => (hc.verifyOwner p user).seq (notes_pure trivial)

end Collaborators.Noting

theorem CardService.notes_requireSameParticipant (p : Identifier) (payload : CardPayload) :
    (requireSameParticipant c p payload).Notes P fun _ => True := by
  unfold requireSameParticipant
  dsimp only
  split
  · exact notes_fail rfl
  · exact notes_pure trivial

end operations

/-! ## Calls -/

section calls

variable {c : Collaborators σ}

namespace GroupService

theorem notes_begin {call : Call} {request : String} (k : GroupOperation)
    (h : call.Tells { logger, level := .info, message := mark ++ request }) :
    (begin k request : Action σ Unit).Notes call.Tells fun _ => True :=
  (notes_note h).seq (notes_count _ _)

theorem notes_get (id : String) (hc : c.Noting (Call.getGroup id).Tells) :
    (get c id).Notes (Call.getGroup id).Tells fun _ => True := by
  refine (notes_begin .get (.said (List.mem_singleton_self _) .info)).seq (Notes.bind (Q := fun _ => True) ?_ ?_)
  · exact Notes.block ((Collaborators.Noting.parse id).bind fun p _ => hc.requireGroup id p)
      fun f hf => Call.tells_record hf ⟨rfl, rfl, rfl⟩
  · exact fun group _ => (notes_count _ _).seq (notes_pure trivial)

theorem notes_create (id : String) (credentials : Option Credentials) (extension : Option String)
    (hc : c.Noting (Call.createGroup id credentials extension).Tells) :
    (create c id credentials extension).Notes (Call.createGroup id credentials extension).Tells fun _ => True := by
  refine (notes_begin .create (.said (List.mem_singleton_self _) .info)).seq (Notes.bind (Q := fun _ => True) ?_ ?_)
  · refine Notes.block ?_ fun f hf => Call.tells_record hf ⟨rfl, rfl, rfl⟩
    exact (Collaborators.Noting.parse id).bind fun p _ => (hc.authenticate credentials).bind fun user _ =>
      hc.createGroup p user extension
  · exact fun group _ => (notes_count _ _).seq (notes_pure trivial)

theorem notes_delete (id : String) (credentials : Option Credentials)
    (hc : c.Noting (Call.deleteGroup id credentials).Tells) :
    (delete c id credentials).Notes (Call.deleteGroup id credentials).Tells fun _ => True := by
  refine (notes_begin .delete (.said (List.mem_singleton_self _) .info)).seq (Notes.bind (Q := fun _ => True) ?_ ?_)
  · refine Notes.block ?_ fun f hf => Call.tells_record hf ⟨rfl, rfl, rfl⟩
    refine (Collaborators.Noting.parse id).bind fun p _ => (hc.requireOwner p credentials).bind fun _ _ =>
      (hc.deleteGroup p).bind fun deleted _ => ?_
    cases deleted with
    | true => exact notes_pure trivial
    | false => exact notes_fail rfl
  · exact fun _ _ => (notes_count _ _).seq (notes_pure trivial)

end GroupService

namespace CardService

theorem notes_said (call : Call) {k : CardOperation} {text : String} (level : Level) (hk : call.kind = .card k)
    (h : text ∈ call.texts) : (note level k call.id text : Action σ Unit).Notes call.Tells fun _ => True := by
  have hsaid := Call.Tells.said h level
  rw [hk] at hsaid
  exact Action.notes_note hsaid

theorem notes_begin (call : Call) {k : CardOperation} {text : String} (hk : call.kind = .card k)
    (h : text ∈ call.texts) : (begin k call.id text : Action σ Unit).Notes call.Tells fun _ => True :=
  (notes_said call .info hk h).seq (notes_count _ _)

theorem notes_succeed (call : Call) {k : CardOperation} {text : String} (hk : call.kind = .card k)
    (h : text ∈ call.texts) : (succeed k call.id text : Action σ Unit).Notes call.Tells fun _ => True :=
  (notes_said call .info hk h).seq (notes_count _ _)

theorem notes_get (id : String) (hc : c.Noting (Call.getCard id).Tells) :
    (get c id).Notes (Call.getCard id).Tells fun _ => True := by
  refine (notes_begin (.getCard id) rfl (by simp [Call.texts])).seq (Notes.bind (Q := fun _ => True) ?_ ?_)
  · refine Notes.block ?_ fun f hf => Call.tells_record hf ⟨rfl, rfl, rfl⟩
    exact (Collaborators.Noting.parse id).bind fun p _ => (hc.requireGroup id p).bind fun group _ =>
      hc.requireCards.bind fun store hs => (hs.ofGroup group).bind fun card _ =>
        (notes_orFail rfl card).mono (fun _ h => h) fun _ _ => trivial
  · intro card _
    refine (notes_succeed (.getCard id) rfl (by simp [Call.texts])).seq ?_
    cases CardPayload.ofCard card with
    | ok payload => exact notes_pure trivial
    | error violations => exact notes_invalid violations

/-- Storing a card notes how it ended. -/
theorem notes_store (id : String) (payload : CardPayload) (credentials : Option Credentials) {store : CardStore σ}
    (hs : store.Noting (Call.createCard id payload credentials).Tells) (group : ServiceGroup)
    (entities : List StoredEntity) :
    (do
      let finished := "Finished createBusinessCard(" ++ id ++ "," ++ payload.summary ++ ")"
      match ← store.put group entities with
      | none =>
        note .error .create id (finished ++ " - failure")
        Action.count errorCounter CardOperation.create.name
        return .failure
      | some _ =>
        succeed .create id (finished ++ " - success")
        return .success : Action σ Outcome).Notes (Call.createCard id payload credentials).Tells fun _ => True := by
  refine (hs.put group entities).bind fun stored _ => ?_
  cases stored with
  | none =>
    exact (notes_said (.createCard id payload credentials) .error rfl (by simp [Call.texts])).seq
      ((notes_count _ _).seq (notes_pure trivial))
  | some card =>
    exact (notes_succeed (.createCard id payload credentials) rfl (by simp [Call.texts])).seq
      (notes_pure trivial)

theorem notes_create (id : String) (payload : CardPayload) (credentials : Option Credentials)
    (hc : c.Noting (Call.createCard id payload credentials).Tells) :
    (create c id payload credentials).Notes (Call.createCard id payload credentials).Tells fun _ => True := by
  refine (notes_begin (.createCard id payload credentials) rfl (by simp [Call.texts])).seq
    (Notes.bind (Q := fun q => q.2.Noting (Call.createCard id payload credentials).Tells) ?_ ?_)
  · refine Notes.block ?_ fun f hf => Call.tells_record hf ⟨rfl, rfl, rfl⟩
    exact (Collaborators.Noting.parse id).bind fun p _ => (notes_requireSameParticipant p payload).seq
      ((hc.requireGroup id p).bind fun group _ => (hc.requireOwner p credentials).bind fun _ _ =>
        hc.requireCards.bind fun store hs => notes_pure hs)
  · -- The block hands on the store, so what is known of the store has to be part of its answer.
    rintro ⟨group, store⟩ hs
    refine (notes_mapM (fun _ => notes_issue.bind fun _ _ => notes_pure trivial) _).bind fun entities _ => ?_
    exact notes_store id payload credentials hs group entities

theorem notes_delete (id : String) (credentials : Option Credentials)
    (hc : c.Noting (Call.deleteCard id credentials).Tells) :
    (delete c id credentials).Notes (Call.deleteCard id credentials).Tells fun _ => True := by
  refine (notes_begin (.deleteCard id credentials) rfl (by simp [Call.texts])).seq
    (Notes.bind (Q := fun _ => True) ?_ ?_)
  · refine Notes.block ?_ fun f hf => Call.tells_record hf ⟨rfl, rfl, rfl⟩
    exact (Collaborators.Noting.parse id).bind fun p _ => (hc.requireOwner p credentials).bind fun _ _ =>
      hc.requireCards.bind fun store hs => (hs.ofId p.key).bind fun found _ =>
        (notes_orFail rfl found).bind fun card _ => (hs.delete card).seq (notes_pure trivial)
  · exact fun _ _ => (notes_succeed (.deleteCard id credentials) rfl (by simp [Call.texts])).seq
      (notes_pure trivial)

end CardService

/-- What a call notes if its collaborators note records of the call. -/
theorem Call.notes_perform (call : Call) (hc : c.Noting call.Tells) :
    (call.perform c).Notes call.Tells fun _ => True := by
  cases call with
  | getGroup id => exact (GroupService.notes_get id hc).map fun _ _ => trivial
  | createGroup id credentials extension =>
    exact (GroupService.notes_create id credentials extension hc).map fun _ _ => trivial
  | deleteGroup id credentials => exact (GroupService.notes_delete id credentials hc).map fun _ _ => trivial
  | getCard id => exact (CardService.notes_get id hc).map fun _ _ => trivial
  | createCard id payload credentials =>
    exact (CardService.notes_create id payload credentials hc).map fun _ _ => trivial
  | deleteCard id credentials => exact (CardService.notes_delete id credentials hc).map fun _ _ => trivial

end calls

/-! ## The collaborators of a directory -/

section directory

variable {P : Record → Prop} (hP : ∀ r : Record, r.Aside → P r)
include hP

theorem notes_aside {logger message : String} {level : Level} {context : RecordContext}
    (hl : logger ∉ Operation.loggers) (hf : ∀ f ∈ context.fields, f.2 = .null ∨ ∃ text, f.2 = .str text) :
    (note { logger, level, message, context } : Action σ Unit).Notes P fun _ => True :=
  notes_note (hP _ ⟨hf, hl⟩)

theorem notes_session_aside {α : Type} {t : Transaction α} (ht : t.Fails Failure.Coded) : (session t).Notes P fun _ => True :=
  notes_session ht fun kind operation text => hP _
    ⟨by simp [databaseRecord, Record.Textual, RecordContext.fields], (by decide : databaseLogger ∉ Operation.loggers)⟩

theorem Users.notes_authenticate (rounds : Nat) (credentials : Option Credentials) :
    (Users.authenticate rounds credentials).Notes P fun _ => True := by
  cases credentials with
  | none => exact notes_fail rfl
  | some c =>
    refine (notes_session_aside hP (fails_namedRow (fun _ => trivial) ⟨_, rfl⟩)).bind fun row _ => ?_
    split
    · exact notes_pure trivial
    · exact notes_fail rfl

namespace Groups

theorem notes_find? (p : Identifier) : (find? p).Notes P fun _ => True :=
  notes_session_aside hP (fails_lookup (fun _ => trivial) p)

theorem notes_create (p : Identifier) (owner : User) (extension : Option String) :
    (create p owner extension).Notes P fun _ => True := by
  refine (notes_session_aside hP (fails_register (fun _ => trivial) ⟨_, rfl⟩ owner extension)).bind fun row _ => ?_
  exact (notes_aside hP (by decide) (by simp [RecordContext.fields])).seq (notes_pure trivial)

theorem notes_delete (p : Identifier) : (delete p).Notes P fun _ => True := by
  refine (notes_session_aside hP (fails_deleteRow (fun _ => trivial) p.key)).bind fun deleted _ => ?_
  cases deleted with
  | true => exact (notes_aside hP (by decide) (by simp [RecordContext.fields])).seq (notes_pure trivial)
  | false => exact notes_pure trivial

theorem notes_verifyOwner (p : Identifier) (user : User) : (verifyOwner p user).Notes P fun _ => True := by
  have hfails : (ownerCheck p user).Fails Failure.Coded := fails_ownerCheck (fun _ => trivial) ⟨_, rfl⟩ ⟨_, rfl⟩
  exact (notes_session_aside hP hfails).seq (notes_aside hP (by decide) (by simp [RecordContext.fields]))

end Groups

namespace Cards

theorem notes_find? (id : String) : (find? id).Notes P fun _ => True :=
  notes_session_aside hP (mechanical_findCard id).fails

theorem notes_put (group : ServiceGroup) (entities : List StoredEntity) : (put group entities).Notes P fun _ => True := by
  have hsession : (some <$> session (putRows group entities)).Notes P fun _ => True :=
    (notes_session_aside hP (mechanical_putRows group entities).fails).map fun _ _ => trivial
  refine Notes.bind (Q := fun _ => True) ?_ fun stored _ => ?_
  · refine hsession.rescue (fun f hf => ?_) (fun vs => notes_invalid vs) fun x => notes_accident x
    obtain ⟨code, hcode⟩ := hf
    exact (notes_aside hP (by decide) (by simp [RecordContext.fields, hcode])).seq (notes_pure trivial)
  · cases stored with
    | none => exact notes_pure trivial
    | some stored => exact (notes_aside hP (by decide) (by simp [RecordContext.fields])).seq (notes_pure trivial)

theorem notes_delete (card : BusinessCard) : (delete card).Notes P fun _ => True := by
  refine (notes_session_aside hP (mechanical_deleteRows card.id).fails).bind fun deleted _ => ?_
  cases deleted with
  | true => exact (notes_aside hP (by decide) (by simp [RecordContext.fields])).seq (notes_pure trivial)
  | false => exact notes_pure trivial

end Cards

/-- What the collaborators of a directory note is aside. -/
theorem Directory.noting_collaborators (d : Directory) (uri : Option String) : (d.collaborators uri).Noting P where
  findGroup := Groups.notes_find? hP
  createGroup := Groups.notes_create hP
  deleteGroup := Groups.notes_delete hP
  authenticate := Users.notes_authenticate hP d.rounds
  verifyOwner := Groups.notes_verifyOwner hP
  cards s hs := by
    have he : s = cardStore := by
      unfold collaborators at hs
      dsimp only at hs
      split at hs
      · exact (Option.mem_some.1 hs).symm
      · cases hs
    rw [he]
    exact ⟨fun g => Cards.notes_find? hP g.id, Cards.notes_find? hP, Cards.notes_put hP, Cards.notes_delete hP⟩

end directory

/-! ## Lines -/

/-- Whatever a call says of itself, its id stands in it. -/
theorem Call.id_of_texts {call : Call} {text : String} (h : text ∈ call.texts) :
    ∃ before after, text = before ++ call.id ++ after := by
  cases call with
  | getGroup id | createGroup id _ _ | deleteGroup id _ =>
    exact ⟨_, "", (List.mem_singleton.1 h).trans String.append_empty.symm⟩
  | getCard id | deleteCard id _ =>
    simp only [texts, List.mem_cons, List.not_mem_nil, or_false] at h
    rcases h with rfl | rfl
    · exact ⟨_, "", String.append_empty.symm⟩
    · exact ⟨_, _, rfl⟩
  | createCard id payload _ =>
    simp only [texts, List.mem_cons, List.not_mem_nil, or_false] at h
    rcases h with rfl | rfl | rfl
    · exact ⟨"PUT /businesscard/", _, String.append_assoc ..⟩
    all_goals exact ⟨"Finished createBusinessCard(", _, by simp only [String.append_assoc, Call.id]; rfl⟩

/-- The id of a call stands in every message of its operation and of its reported block. -/
theorem Call.Tells.names_id {call : Call} {r : Record} (h : call.Tells r) (hl : r.logger ∈ Operation.loggers) :
    ∃ before after, r.message = before ++ call.id ++ after := by
  cases h with
  | said h level =>
    obtain ⟨before, after, rfl⟩ := id_of_texts h
    exact ⟨call.kind.mark ++ before, after, by simp only [String.append_assoc]⟩
  | refused reason code =>
    exact ⟨call.kind.mark ++ call.kind.name ++ "(", ") failed: " ++ reason, by simp only [String.append_assoc]⟩
  | aside h => exact absurd hl h.logger

/-- A record of texts is kept by its line of JSON. A handler of the directory writes it with its own id, or with that of
the directory if it has none. The lines of a journal of such records are those of the records. Each record of a call is
such a record, whatever the id of the call is; in those of its operation and of its reported block the id stands as it
was given. -/
theorem lines_keep_records :
    (∀ (created : Calendar.Moment) (r : Record), r.Textual → r.Kept created (r.jsonLine created)) ∧
    (∀ (clock : Calendar.Moment → String) (created : Calendar.Moment) (id : String) (r : Record), r.Textual → ∃ own,
      r.stamp id = { r with context := { r.context with smpId := .str own } } ∧
        (r.context.smpId = .str own ∨ (r.context.smpId = .null ∧ own = id)) ∧
        (r.stamp id).Kept created (Handler.line ⟨true, id⟩ clock created r)) ∧
    (∀ (l : Logging) (clock : Calendar.Moment → String) (noted : List (Calendar.Moment × Record)),
      (∀ h, .own h ∈ l.handlers → h.json = true) → (∀ n ∈ noted, n.2.Textual) →
      (String.join (noted.map fun n => l.output clock n.1 n.2)).toList.splitOn '\n' =
        (noted.flatMap fun n => l.lines clock n.1 n.2).map String.toList ++ [[]]) ∧
    (∀ (d : Directory) (uri : Option String) (call : Call) (w : World Database), ∃ records,
      ((call.perform (d.collaborators uri)).runOn w).2.journal = w.journal ++ records ∧
        ∀ r ∈ records, call.Tells r ∧
          (r.logger ∈ Operation.loggers → ∃ before after, r.message = before ++ call.id ++ after) ∧
          ∀ (clock : Calendar.Moment → String) (created : Calendar.Moment) (id : String),
            (r.stamp id).Kept created (Handler.line ⟨true, id⟩ clock created r)) := by
  refine ⟨fun created r h => h.kept created, fun clock created id r h => ?_,
    fun l clock noted hl => Logging.splitOn_output hl, fun d uri call w => ?_⟩
  · obtain ⟨own, he, howned⟩ := h.stamp_eq id
    exact ⟨own, he, howned, h.kept_line id clock created⟩
  · have hc : (d.collaborators uri).Noting call.Tells := Directory.noting_collaborators (fun _ => .aside) d uri
    obtain ⟨⟨records, hj, hr⟩, -⟩ := call.notes_perform hc w
    refine ⟨records, hj, fun r hm => ⟨hr r hm, (hr r hm).names_id, fun clock created id => ?_⟩⟩
    exact (hr r hm).textual.kept_line id clock created

/-- A message with a quote, a backslash, a line feed and a null character is kept, and so is the id that a record has of
its own; two such records are two lines of the journal. A call with such an id notes two records, each on a line of its
own. -/
theorem lines_keep_records_of_broken_id :
    let moment : Calendar.Moment := ⟨2026, 1, 31, 12, 0, 0, 0, some 0⟩
    let clock : Calendar.Moment → String := fun _ => "2026-01-31 12:00:00,000"
    let r : Record :=
      { logger := "a", level := .info, message := "\"\\\n%s\x00", context := { smpId := .str "SMP-2" } }
    let l := (Logging.setup "INFO" "json" (some "SMP-1") .initial).2
    let after := ((Call.getCard "a\"\n%s").perform (Directory.collaborators ⟨.simple, true, 1⟩ none)).runOn
      { state := .fresh }
    (r.Textual ∧ r.Kept moment (r.jsonLine moment) ∧
      r.jsonLine moment = "\x7b\"timestamp\": \"2026-01-31T12:00:00+00:00\", \"level\": \"INFO\", " ++
        "\"logger\": \"a\", \"message\": \"\\\"\\\\\\n%s\\u0000\", \"smp_id\": \"SMP-2\"\x7d") ∧
    (r.stamp "SMP-1").Kept moment (Handler.line ⟨true, "SMP-1"⟩ clock moment r) ∧
    (String.join [l.output clock moment r, l.output clock moment r]).toList.splitOn '\n' =
      [(r.jsonLine moment).toList, (r.jsonLine moment).toList, []] ∧
    (after.2.journal.map Record.message =
        ["[BusinessCard REST API] GET /businesscard/a\"\n%s",
          "[BusinessCard REST API] getBusinessCard(a\"\n%s) failed: Failed to parse serviceGroup 'a\"\n%s'"] ∧
      ∀ r ∈ after.2.journal, (r.stamp "SMP-1").Kept moment (Handler.line ⟨true, "SMP-1"⟩ clock moment r)) := by
  intro moment clock r l after
  have hr : r.Textual := by simp [Record.Textual, RecordContext.fields, r]
  obtain ⟨own, -, -, hkept⟩ := lines_keep_records.2.1 clock moment "SMP-1" r hr
  have hl : ∀ h, .own h ∈ l.handlers → h.json = true := by
    intro h hm
    cases List.mem_singleton.1 (show RootHandler.own h ∈ [.own ⟨true, "SMP-1"⟩] from hm)
    rfl
  have hlines := lines_keep_records.2.2.1 l clock [(moment, r), (moment, r)] hl (by simp [hr])
  have hline : l.lines clock moment r = [r.jsonLine moment] := by decide +kernel
  obtain ⟨records, hj, hrecords⟩ :=
    lines_keep_records.2.2.2 ⟨.simple, true, 1⟩ none (.getCard "a\"\n%s") { state := .fresh }
  refine ⟨⟨hr, lines_keep_records.1 moment r hr, by decide +kernel⟩, hkept, ?_, by decide +kernel, fun r hm => ?_⟩
  · refine hlines.trans ?_
    simp only [List.flatMap_cons, List.flatMap_nil, hline]
    rfl
  · rw [show after.2.journal = records from hj] at hm
    exact (hrecords r hm).2.2 clock moment "SMP-1"

end ParticipantDirectory
