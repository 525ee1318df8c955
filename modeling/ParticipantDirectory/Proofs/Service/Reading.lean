import ParticipantDirectory.Proofs.Card.Construction
import ParticipantDirectory.Proofs.Service.Noted

/-!
# When reading a card is finished

Reading a card is noted as finished and counted as a success once the card is found, and only then is its payload built.
So a card that is found but has a part that does not keep its limits is reported with all that is wrong with this part,
and is counted as a success all the same (`finished_iff_card_found`). Such a card has been stored without a check
(`finished_without_payload`). Whatever else goes wrong, the call alone is counted.
-/

namespace ParticipantDirectory

open Action Transaction

namespace CardService

/-- The record with which reading a card begins. -/
def asked (id : String) : Record where
  logger := logger
  level := .info
  message := mark ++ ("GET /businesscard/" ++ id)
  context := { operation := .str CardOperation.get.name, serviceGroupId := .str id }

/-- The record with which reading a card is finished. -/
def finished (id : String) : Record where
  logger := logger
  level := .info
  message := mark ++ ("Finished getBusinessCard(" ++ id ++ ")")
  context := { operation := .str CardOperation.get.name, serviceGroupId := .str id }

theorem finished_ne_asked (id : String) : finished id ≠ asked id := by
  intro h
  have hm := congrArg (fun r => r.message.toList) h
  simp [finished, asked, mark] at hm

end CardService

namespace Directory

variable (d : Directory) (uri : Option String) (id : String)

/-- What the search for a card notes does not go to the logger of the operation. -/
theorem notes_cardBlock :
    ((CardService.block (d.collaborators uri) .get id).run do
      let p ← (d.collaborators uri).parse id
      let group ← (d.collaborators uri).requireGroup id p
      let store ← (d.collaborators uri).requireCards
      Action.orFail (.unknownCard id) (← store.ofGroup group)).Notes (fun r => r.logger ≠ CardService.logger)
        fun _ => True := by
  have haside (r : Record) (hr : r.Aside) : r.logger ≠ CardService.logger := fun he =>
    hr.logger (he ▸ List.mem_cons_of_mem _ (List.mem_cons_self ..))
  have hc := Directory.noting_collaborators haside d uri
  have hown : Block.logger ≠ CardService.logger := by decide
  refine Notes.block ?_ fun _ _ => hown
  exact (Collaborators.Noting.parse id).bind fun p _ => (hc.requireGroup id p).bind fun group _ =>
    hc.requireCards.bind fun store hs => (hs.ofGroup group).bind fun card _ =>
      (notes_orFail rfl card).mono (fun _ h => h) fun _ _ => trivial

/-- A card that is found is finished before it is converted. -/
theorem runOn_convert (card : BusinessCard) (w : World Database) :
    (do
      CardService.succeed .get id ("Finished getBusinessCard(" ++ id ++ ")")
      match CardPayload.ofCard card with
      | .ok payload => return payload
      | .error violations => throw (.invalid violations) : Action Database CardPayload).runOn w =
      ((CardPayload.ofCard card).mapError .invalid,
        { w with journal := w.journal ++ [CardService.finished id]
                 tally := w.tally.tick [(Operation.card .get).successMark] }) := by
  cases CardPayload.ofCard card <;> rfl

/-- Reading a card asks, searches, and finishes if there is a card. -/
theorem runOn_getCard (w : World Database) :
    let found := (d.readCard id w.state).isOk
    ∃ w', (CardService.get (d.collaborators uri) id).runOn w =
        ((d.readCard id w.state).mapError (CardService.block (d.collaborators uri) .get id).report >>= fun card =>
          (CardPayload.ofCard card).mapError .invalid, w') ∧
      (∃ search, (∀ r ∈ search, r.logger ≠ CardService.logger) ∧
        w'.journal = w.journal ++ (CardService.asked id :: search ++ if found then [CardService.finished id] else [])) ∧
      w'.tally = w.tally.tick
        ((Operation.card .get).callMark :: if found then [(Operation.card .get).successMark] else []) := by
  obtain ⟨w₁, hbegin, hstate, hasked, hcalled⟩ : ∃ w₁,
      (CardService.begin .get id ("GET /businesscard/" ++ id) : Action Database Unit).runOn w = (.ok (), w₁) ∧
        w₁.state = w.state ∧ w₁.journal = w.journal ++ [CardService.asked id] ∧
        w₁.tally = w.tally.tick [(Operation.card .get).callMark] := ⟨_, rfl, rfl, rfl, rfl⟩
  obtain ⟨w₂, hblock, -⟩ := d.reads_cardBlock uri id w₁
  have hsilent : _ = w₁.tally := d.silent_cardBlock uri id w₁
  obtain ⟨⟨search, hjournal, hsearch⟩, -⟩ := d.notes_cardBlock uri id w₁
  rw [hblock] at hsilent hjournal
  dsimp only at hblock hsilent hjournal
  rw [hstate] at hblock
  rw [CardService.get, runOn_bind, hbegin]
  dsimp only
  rw [runOn_bind, hblock]
  cases d.readCard id w.state with
  | error f =>
    refine ⟨w₂, rfl, ⟨search, hsearch, ?_⟩, hsilent.trans hcalled⟩
    rw [hjournal, hasked, List.append_assoc]
    exact congrArg (w.journal ++ ·) (List.append_nil _).symm
  | ok card =>
    refine ⟨_, runOn_convert id card w₂, ⟨search, hsearch, ?_⟩, ?_⟩
    · dsimp only
      rw [hjournal, hasked, List.append_assoc, List.append_assoc]
      rfl
    · dsimp only
      rw [hsilent, hcalled, ← Tally.tick_append]
      rfl

/-- Reading a card is noted as finished, once, and counted as a success exactly if a card is found; otherwise the call
alone is counted. There is a payload exactly if every part of the card that is found keeps its limits, and the answer
tells of violations exactly if one does not. So what is noted and counted agrees with the answer unless a card is found
of which a part does not keep its limits. -/
theorem finished_iff_card_found (w : World Database) :
    let ran := (CardService.get (d.collaborators uri) id).runOn w
    let found := (d.readCard id w.state).isOk
    (∃ records, CardService.finished id ∉ records ∧
      ran.2.journal = w.journal ++ (records ++ if found then [CardService.finished id] else [])) ∧
    ran.2.tally = w.tally.tick
      ((Operation.card .get).callMark :: if found then [(Operation.card .get).successMark] else []) ∧
    ((∃ payload, ran.1 = .ok payload) ↔
      ∃ card, d.readCard id w.state = .ok card ∧ ∀ part ∈ card.parts, part.Fits) ∧
    (∀ vs, ran.1 = .error (.invalid vs) ↔
      ∃ card, d.readCard id w.state = .ok card ∧ CardPayload.ofCard card = .error vs) ∧
    ((found = true ↔ ∃ payload, ran.1 = .ok payload) ↔
      ∀ card, d.readCard id w.state = .ok card → ∀ part ∈ card.parts, part.Fits) := by
  obtain ⟨w', hrun, ⟨search, hsearch, hjournal⟩, htally⟩ := d.runOn_getCard uri id w
  have hfresh : CardService.finished id ∉ CardService.asked id :: search := by
    intro hm
    rcases List.mem_cons.1 hm with he | hm
    · exact CardService.finished_ne_asked id he
    · exact hsearch _ hm rfl
  dsimp only
  rw [hrun]
  refine ⟨⟨_, hfresh, hjournal⟩, htally, ?_⟩
  dsimp only
  cases hr : d.readCard id w.state with
  | error f =>
    have hnone (P : BusinessCard → Prop) : ¬∃ card, Except.error f = .ok card ∧ P card := fun ⟨_, h, _⟩ => by cases h
    refine ⟨iff_of_false (fun ⟨_, h⟩ => by cases h) (hnone _), fun vs => iff_of_false (fun h => ?_) (hnone _),
      iff_of_true (iff_of_false Bool.false_ne_true fun ⟨_, h⟩ => by cases h) fun _ h => by cases h⟩
    cases f with
    | invalid vs' => exact d.no_violation_readCard id w.state vs' hr
    | fault | accident => cases h
  | ok card =>
    dsimp only [Except.mapError, bind, Except.bind]
    obtain ⟨hfits, hok⟩ | ⟨before, part, after, vs, hparts, -, hunfit, herror, -⟩ :=
      (CardPayload.judges_ofCard card).first
    · rw [hok]
      refine ⟨iff_of_true ⟨_, rfl⟩ ⟨card, rfl, hfits⟩, fun vs => iff_of_false (fun h => by cases h) ?_,
        iff_of_true (iff_of_true rfl ⟨_, rfl⟩) fun _ h => by cases h; exact hfits⟩
      rintro ⟨_, ⟨⟩, he⟩
      cases hok.symm.trans he
    · rw [herror]
      have hpart : part ∈ card.parts := hparts ▸ List.mem_append_right _ (List.mem_cons_self ..)
      refine ⟨iff_of_false (fun ⟨_, h⟩ => by cases h) ?_, fun vs' => ⟨fun h => ?_, ?_⟩,
        iff_of_false (fun h => ?_) fun h => hunfit (h card rfl part hpart)⟩
      · rintro ⟨_, ⟨⟩, hfits⟩
        exact hunfit (hfits part hpart)
      · cases h
        exact ⟨card, rfl, herror⟩
      · rintro ⟨_, ⟨⟩, he⟩
        cases herror.symm.trans he
        rfl
      · obtain ⟨_, h⟩ := h.1 rfl
        cases h

/-- A card that was stored without a check, with the code of its country in small letters, is found but not converted.
Reading it is finished and a success in the journal and in the tally, and its answer is a violation. -/
theorem finished_without_payload :
    let group : ServiceGroup := ⟨"a::b", ⟨"a", "b"⟩, .issued 0, none⟩
    let db : Database := { Database.fresh with groups := some [⟨"a::b", "a", "b", .issued 0, none⟩] }
    let stored := (Cards.put group [⟨.issued 1, { acme with countryCode := "de" }⟩]).runOn { state := db }
    let ran := (CardService.get (collaborators ⟨.simple, true, 1⟩ none) "a::b").runOn { state := stored.2.state }
    ran.1 = .error (.invalid [⟨[.field "country_code"], .textPattern "^[A-Z]\x7b2\x7d$"⟩]) ∧
      CardService.finished "a::b" ∈ ran.2.journal ∧
      ran.2.tally.count CardService.successCounter CardOperation.get.name = 1 := by
  intro group db stored ran
  let card : BusinessCard := ⟨"a::b", ⟨"a", "b"⟩, [⟨.issued 1, { acme with countryCode := "de" }⟩]⟩
  have hread : readCard ⟨.simple, true, 1⟩ "a::b" stored.2.state = .ok card := by
    show (Cause.require _ (Addressing.simple.parse? "a::b") >>= _) = _
    rw [show Addressing.simple.parse? "a::b" = some ⟨"a", "b"⟩ by decide +kernel]
    rfl
  have herror : CardPayload.ofCard card =
      .error [⟨[.field "country_code"], .textPattern "^[A-Z]\x7b2\x7d$"⟩] := by decide +kernel
  obtain ⟨w', hrun, ⟨search, -, hjournal⟩, htally⟩ :=
    runOn_getCard ⟨.simple, true, 1⟩ none "a::b" { state := stored.2.state }
  dsimp only at hrun hjournal htally
  rw [hread] at hrun hjournal htally
  rw [show ran = _ from hrun]
  refine ⟨?_, ?_, ?_⟩
  · show (CardPayload.ofCard card).mapError Failure.invalid = _
    rw [herror]
    rfl
  · show _ ∈ w'.journal
    rw [hjournal]
    exact List.mem_append_right _ (List.mem_append_right _ (List.mem_singleton_self _))
  · show w'.tally.count _ _ = 1
    rw [htally, Tally.count_tick]
    decide +kernel

end Directory

end ParticipantDirectory
