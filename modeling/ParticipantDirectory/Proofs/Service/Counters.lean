import ParticipantDirectory.Proofs.Framework.Counting
import ParticipantDirectory.Proofs.Service.Calls

/-!
# What a call counts

A call is counted before anything else, and once more when it ends: as a success, or as a failure that is an answer.
The collaborators of a directory count nothing, so what a call counts depends on its answer alone
(`Directory.counts_perform`), from every world and whichever tables are missing. Reading a card is counted as a success
before the card is converted, so an answer that tells of violations goes with one too.
-/

namespace ParticipantDirectory

open Action Transaction

/-! ## Collaborators count nothing -/

theorem Users.silent_authenticate (rounds : Nat) (credentials : Option Credentials) :
    (Users.authenticate rounds credentials).Silent := by
  cases credentials with
  | none => exact silent_fail _
  | some c =>
    refine (silent_session _).bind fun row => ?_
    by_cases h : Password.verify rounds c.password row.passwordHash = true
    · rw [if_pos h]
      exact silent_pure _
    · rw [if_neg h]
      exact silent_fail _

theorem Users.silent_create (rounds : Nat) (name password : Text.Loose) :
    (Users.create rounds name password).Silent := by
  refine silent_issue.bind fun n => silent_get.bind fun w => ?_
  cases password with
  | broken b => exact silent_throw _
  | whole password =>
    cases name with
    | broken b => exact silent_session _
    | whole name => exact (silent_session _).seq ((silent_note _).seq (silent_pure _))

theorem Groups.silent_create (p : Identifier) (owner : User) (extension : Option String) :
    (Groups.create p owner extension).Silent :=
  (silent_session _).bind fun _ => (silent_note _).seq (silent_pure _)

theorem Groups.silent_delete (p : Identifier) : (Groups.delete p).Silent := by
  refine (silent_session _).bind fun deleted => ?_
  cases deleted with
  | true => exact (silent_note _).seq (silent_pure _)
  | false => exact silent_pure _

theorem Groups.silent_verifyOwner (p : Identifier) (user : User) : (Groups.verifyOwner p user).Silent :=
  (silent_session _).bind fun _ => silent_note _

theorem Cards.silent_put (group : ServiceGroup) (entities : List StoredEntity) : (Cards.put group entities).Silent := by
  refine (((silent_session _).map some).rescue fun e => ?_).bind fun stored => ?_
  · cases e with
    | fault f => exact (silent_note _).seq (silent_pure _)
    | invalid vs => exact silent_throw _
    | accident a => exact silent_throw _
  · cases stored with
    | none => exact silent_pure _
    | some stored => exact (silent_note _).seq (silent_pure _)

theorem Cards.silent_delete (card : BusinessCard) : (Cards.delete card).Silent := by
  refine (silent_session _).bind fun deleted => ?_
  cases deleted with
  | true => exact (silent_note _).seq (silent_pure _)
  | false => exact silent_pure _

namespace Directory

variable (d : Directory) (uri : Option String)

theorem silent_parse (id : String) : ((d.collaborators uri).parse id).Silent :=
  silent_orFail _ _

theorem silent_requireGroup (id : String) (p : Identifier) : ((d.collaborators uri).requireGroup id p).Silent :=
  (silent_session _).bind fun _ => silent_orFail _ _

theorem silent_requireOwner (p : Identifier) (credentials : Option Credentials) :
    ((d.collaborators uri).requireOwner p credentials).Silent :=
  (Users.silent_authenticate _ _).bind fun user => (Groups.silent_verifyOwner p user).seq (silent_pure _)

theorem silent_requireSameParticipant (p : Identifier) (payload : CardPayload) :
    (CardService.requireSameParticipant (d.collaborators uri) p payload).Silent := by
  unfold CardService.requireSameParticipant
  dsimp only
  split
  · exact silent_fail _
  · exact silent_pure _

/-- What is silent with the store of cards over the database is silent after asking for it. -/
theorem silent_requireCards {α : Type} {k : CardStore Database → Action Database α} (hk : (k cardStore).Silent) :
    ((d.collaborators uri).requireCards >>= k).Silent := by
  rw [requireCards_eq]
  cases d.cardsEnabled with
  | true => exact hk
  | false => exact fun _ => rfl

/-- The reported block in which a card is looked up counts nothing. -/
theorem silent_cardBlock (id : String) :
    ((CardService.block (d.collaborators uri) .get id).run do
      let p ← (d.collaborators uri).parse id
      let group ← (d.collaborators uri).requireGroup id p
      let store ← (d.collaborators uri).requireCards
      Action.orFail (.unknownCard id) (← store.ofGroup group)).Silent :=
  Silent.block _ ((d.silent_parse uri id).bind fun p => (d.silent_requireGroup uri id p).bind fun _ =>
    d.silent_requireCards uri ((silent_session _).bind fun card => silent_orFail _ card))

end Directory

/-! ## The marks of a call -/

/-- An operation on service groups or on business cards. -/
inductive Operation where
  | group (k : GroupOperation)
  | card (k : CardOperation)
  deriving DecidableEq

namespace Operation

/-- The name under which an operation is noted and counted. -/
def name : Operation → String
  | group k => k.name
  | card k => k.name

/-- What is counted when an operation is called. -/
def callMark : Operation → Mark
  | group k => (GroupService.callCounter, k.name)
  | card k => (CardService.callCounter, k.name)

/-- What is counted when an operation succeeds. -/
def successMark : Operation → Mark
  | group k => (GroupService.successCounter, k.name)
  | card k => (CardService.successCounter, k.name)

/-- What is counted when an operation ends with a failure as its answer; only cards have a counter for that. -/
def errorMarks : Operation → List Mark
  | group _ => []
  | card k => [(CardService.errorCounter, k.name)]

/-- All that is counted for an operation. -/
def marks (k : Operation) : List Mark :=
  k.callMark :: k.successMark :: k.errorMarks

end Operation

namespace Call

/-- The operation that is called. -/
def kind : Call → Operation
  | getGroup _ => .group .get
  | createGroup .. => .group .create
  | deleteGroup .. => .group .delete
  | getCard _ => .card .get
  | createCard .. => .card .create
  | deleteCard .. => .card .delete

/-- What is counted at the end of a call with an answer. -/
def endMarks (call : Call) : Except Failure Answer → List Mark
  | .ok (.outcome .failure) => call.kind.errorMarks
  | .ok _ => [call.kind.successMark]
  | .error (.invalid _) => if call.kind = .card .get then [call.kind.successMark] else []
  | .error _ => []

/-- What is counted for a call with an answer. -/
def marks (call : Call) (answer : Except Failure Answer) : List Mark :=
  call.kind.callMark :: call.endMarks answer

theorem endMarks_error {call : Call} (h : ∀ id, call ≠ .getCard id) (e : Failure) : call.endMarks (.error e) = [] := by
  cases e with
  | invalid vs =>
    cases call with
    | getCard id => exact absurd rfl (h id)
    | getGroup | createGroup | deleteGroup | createCard | deleteCard => rfl
  | fault | accident => rfl

theorem endMarks_report (call : Call) (b : Block) {e : Failure} (h : ∀ vs, e ≠ .invalid vs) :
    call.endMarks (.error (b.report e)) = [] := by
  cases e with
  | invalid vs => exact absurd rfl (h vs)
  | fault | accident => rfl

theorem endMarks_subset (call : Call) (answer : Except Failure Answer) :
    call.endMarks answer ⊆ call.kind.successMark :: call.kind.errorMarks := by
  have hs : [call.kind.successMark] ⊆ call.kind.successMark :: call.kind.errorMarks :=
    List.cons_subset_cons _ (List.nil_subset _)
  unfold endMarks
  split
  · exact List.subset_cons_self _ _
  · exact hs
  · split
    · exact hs
    · exact List.nil_subset _
  · exact List.nil_subset _

/-- A call counts nothing but for its own operation. -/
theorem marks_subset (call : Call) (answer : Except Failure Answer) : call.marks answer ⊆ call.kind.marks :=
  List.cons_subset_cons _ (call.endMarks_subset answer)

end Call

namespace Directory

variable (d : Directory) (uri : Option String)

/-- Reading a card never fails over its contents. -/
theorem no_violation_readCard (id : String) (db : Database) (vs : List Violation) :
    d.readCard id db ≠ .error (.invalid vs) := by
  have hdatabase (message operation : Json) (vs : List Violation) :
      Failure.of (.databaseFailure message operation) ≠ .invalid vs := fun h => by cases h
  have hread : FailsWith (fun f => ∀ vs, f ≠ .invalid vs) (d.readCard id db) := by
    refine (failsWith_require (fun _ h => by cases h) _).bind fun p => FailsWith.bind ?_ fun group =>
      (d.failsWith_enabled fun _ h => by cases h).bind fun _ => FailsWith.bind ?_ fun card =>
        failsWith_require (fun _ h => by cases h) card
    · exact failsWith_groupOf (fun _ _ h => by cases h) hdatabase (fun _ h => by cases h) db
    · exact (Cards.mechanical_findCard group.id).fails.answer hdatabase db
  exact fun h => hread _ h vs rfl

/-! ## What the operations count -/

/-- A call is counted, then come its silent parts, then something is counted with the answer. -/
theorem counts_operation {α β : Type} {call : Call} {start : Action Database Unit} {body : Action Database α}
    {finish : α → Action Database β} {f : β → Answer} (hs : start.Ticks (.ok ()) [call.kind.callMark])
    (hb : body.Silent)
    (hf : ∀ w x, (body.runOn w).1 = .ok x → (finish x).Counts fun r => call.endMarks (r.map f))
    (he : ∀ w e, (body.runOn w).1 = .error e → call.endMarks (.error e) = []) :
    (f <$> (start >>= fun _ => body >>= finish)).Counts call.marks := by
  have h : (start >>= fun _ => body >>= finish).Counts fun r => call.marks (r.map f) :=
    hs.bind_counts (hb.bind_counts hf he) fun _ => rfl
  exact h.map fun _ => rfl

theorem ticks_beginGroup (k : GroupOperation) (request : String) :
    (GroupService.begin k request : Action Database Unit).Ticks (.ok ()) [(Operation.group k).callMark] :=
  (ticks_note _).bind (ticks_count _ _)

theorem ticks_beginCard (k : CardOperation) (id request : String) :
    (CardService.begin k id request : Action Database Unit).Ticks (.ok ()) [(Operation.card k).callMark] :=
  (ticks_note _).bind (ticks_count _ _)

theorem ticks_succeedCard (k : CardOperation) (id message : String) :
    (CardService.succeed k id message : Action Database Unit).Ticks (.ok ()) [(Operation.card k).successMark] :=
  (ticks_note _).bind (ticks_count _ _)

/-- Once a card is found, reading it is a success, whether or not the card can be converted. -/
theorem counts_convert (id message : String) (card : BusinessCard) :
    (do
      CardService.succeed .get id message
      match CardPayload.ofCard card with
      | .ok payload => return payload
      | .error violations => throw (.invalid violations) : Action Database CardPayload).Counts
      fun r => (Call.getCard id).endMarks (r.map .card) := by
  cases CardPayload.ofCard card with
  | ok payload => exact ((ticks_succeedCard _ _ _).bind (ticks_pure payload)).counts rfl
  | error vs => exact ((ticks_succeedCard _ _ _).bind (ticks_throw (.invalid vs))).counts rfl

/-- A card is stored silently, and the outcome is counted. -/
theorem counts_store (id finished : String) (payload : CardPayload) (credentials : Option Credentials)
    (group : ServiceGroup) (entities : List StoredEntity) :
    (do
      match ← cardStore.put group entities with
      | none =>
        CardService.note .error .create id (finished ++ " - failure")
        Action.count CardService.errorCounter CardOperation.create.name
        return .failure
      | some _ =>
        CardService.succeed .create id (finished ++ " - success")
        return .success : Action Database Outcome).Counts
      fun r => (Call.createCard id payload credentials).endMarks (r.map .outcome) := by
  refine (Cards.silent_put group entities).bind_counts (fun _ card _ => ?_)
    fun _ e _ => Call.endMarks_error (fun _ => Call.noConfusion) e
  cases card with
  | none => exact Ticks.counts (r := .ok .failure) ((ticks_note _).bind ((ticks_count _ _).bind (ticks_pure _))) rfl
  | some card => exact ((ticks_succeedCard _ _ _).bind (ticks_pure Outcome.success)).counts rfl

/-- From every world the tally after a call is the one before, with the marks of the call and its answer. -/
theorem counts_perform (call : Call) : (call.perform (d.collaborators uri)).Counts call.marks := by
  cases call with
  | getGroup id =>
    refine counts_operation (ticks_beginGroup .get _)
      (Silent.block _ ((d.silent_parse uri id).bind fun p => d.silent_requireGroup uri id p))
      (fun _ group _ => ((ticks_count _ _).bind (ticks_pure group)).counts rfl)
      fun _ e _ => Call.endMarks_error (fun _ => Call.noConfusion) e
  | createGroup id credentials extension =>
    refine counts_operation (ticks_beginGroup .create _)
      (Silent.block _ ((d.silent_parse uri id).bind fun p => (Users.silent_authenticate _ _).bind fun user =>
        Groups.silent_create p user extension))
      (fun _ group _ => ((ticks_count _ _).bind (ticks_pure group)).counts rfl)
      fun _ e _ => Call.endMarks_error (fun _ => Call.noConfusion) e
  | deleteGroup id credentials =>
    refine counts_operation (ticks_beginGroup .delete _)
      (Silent.block _ ((d.silent_parse uri id).bind fun p => (d.silent_requireOwner uri p credentials).bind fun _ =>
        (Groups.silent_delete p).bind fun deleted => ?_))
      (fun _ group _ => ((ticks_count _ _).bind (ticks_pure Outcome.success)).counts rfl)
      fun _ e _ => Call.endMarks_error (fun _ => Call.noConfusion) e
    cases deleted with
    | true => exact silent_pure _
    | false => exact silent_fail _
  | getCard id =>
    refine counts_operation (ticks_beginCard .get _ _) (d.silent_cardBlock uri id)
      (fun _ card _ => counts_convert id _ card) fun w e he => ?_
    obtain ⟨w', hw, -⟩ := d.reads_cardBlock uri id w
    rw [hw] at he
    dsimp only at he
    cases hr : d.readCard id w.state with
    | ok card => rw [hr] at he; cases he
    | error f =>
      rw [hr] at he
      cases he
      exact Call.endMarks_report _ _ fun vs h => d.no_violation_readCard id _ vs (hr.trans (congrArg _ h))
  | createCard id payload credentials =>
    refine counts_operation (ticks_beginCard .create _ _)
      (Silent.block _ ((d.silent_parse uri id).bind fun p =>
        (d.silent_requireSameParticipant uri p payload).bind fun _ => (d.silent_requireGroup uri id p).bind fun group =>
          (d.silent_requireOwner uri p credentials).bind fun _ => d.silent_requireCards uri (silent_pure _)))
      (fun w x hx => ?_) fun _ e _ => Call.endMarks_error (fun _ => Call.noConfusion) e
    obtain ⟨w', hw, -⟩ := d.reads_storeChecks uri id payload credentials w
    rw [hw] at hx
    obtain ⟨group, -, rfl⟩ := ok_of_map (ok_of_mapError hx)
    exact (silent_mapM (fun _ => silent_issue.bind fun _ => silent_pure _) _).bind_counts
      (fun _ entities _ => counts_store id _ payload credentials group entities)
      fun _ e _ => Call.endMarks_error (fun _ => Call.noConfusion) e
  | deleteCard id credentials =>
    refine counts_operation (ticks_beginCard .delete _ _)
      (Silent.block _ ((d.silent_parse uri id).bind fun p => (d.silent_requireOwner uri p credentials).bind fun _ =>
        d.silent_requireCards uri ((silent_session _).bind fun found => (silent_orFail _ found).bind fun card =>
          (Cards.silent_delete card).seq (silent_pure _))))
      (fun _ _ _ => ((ticks_succeedCard _ _ _).bind (ticks_pure Outcome.success)).counts rfl)
      fun _ e _ => Call.endMarks_error (fun _ => Call.noConfusion) e

end Directory

end ParticipantDirectory
