import ParticipantDirectory.Service.Guard

/-!
# What an operation does to the state

An operation writes journal records and counts whatever its outcome. Two worlds that differ in nothing else
*agree*. An operation *reads* (`Reads`) if from every world its answer is a function of the state and the
world after it agrees with the one before, and it *changes* (`Changes`) if answer and new state are a
function of the state and a failure leaves the state as it was:

* `Reads.bind`, `Reads.block`: sequences and reported blocks of reading operations read;
* `Reads.bind_changes`, `Changes.bind`: reading before a change, and after it as far as a failure then comes
  only where nothing was changed;
* `Changes.ends`: the parts of the world after a change.
-/

namespace ParticipantDirectory

variable {σ α β : Type}

namespace World

/-- Two worlds differ at most in what was noted and counted. -/
structure Agrees (w w' : World σ) : Prop where
  state : w'.state = w.state
  issued : w'.issued = w.issued
  salts : w'.salts = w.salts
  explain : w'.explain = w.explain

/-- The world after a change of the state that may have failed. -/
def settle (w : World σ) : Except Failure (α × σ) → World σ
  | .ok (_, s) => { w with state := s }
  | .error _ => w

theorem Agrees.refl (w : World σ) : w.Agrees w := ⟨rfl, rfl, rfl, rfl⟩

theorem Agrees.trans {w₁ w₂ w₃ : World σ} (h : w₁.Agrees w₂) (h' : w₂.Agrees w₃) : w₁.Agrees w₃ :=
  ⟨h'.state.trans h.state, h'.issued.trans h.issued, h'.salts.trans h.salts, h'.explain.trans h.explain⟩

/-- Worlds that agree still agree after the same change. -/
theorem Agrees.settle {w w' : World σ} (h : w.Agrees w') (r : Except Failure (α × σ)) :
    (w.settle r).Agrees (w'.settle r) := by
  cases r with
  | ok p => exact ⟨rfl, h.issued, h.salts, h.explain⟩
  | error e => exact h

end World

/-- The value that a cause is about, or the failure of the cause if there is none. -/
def Cause.require (c : Cause) : Option α → Except Failure α
  | some a => .ok a
  | none => .error (Failure.of c)

theorem Cause.require_ok {c : Cause} {o : Option α} {a : α} (h : c.require o = .ok a) : o = some a := by
  cases o with
  | none => cases h
  | some b => cases h; rfl

theorem Cause.require_map (c : Cause) (o : Option α) (f : α → β) : c.require (o.map f) = (c.require o).map f := by
  cases o <;> rfl

/-! ## Answers and failures of parts -/

theorem ok_of_bind {ε : Type} {x : Except ε α} {f : α → Except ε β} {b : β} (h : x >>= f = .ok b) :
    ∃ a, x = .ok a ∧ f a = .ok b := by
  cases x with
  | error e => cases h
  | ok a => exact ⟨a, rfl, h⟩

theorem ok_of_map {ε : Type} {x : Except ε α} {f : α → β} {b : β} (h : x.map f = .ok b) :
    ∃ a, x = .ok a ∧ f a = b := by
  cases x with
  | error e => cases h
  | ok a => cases h; exact ⟨a, rfl, rfl⟩

theorem ok_of_mapError {ε ε' : Type} {x : Except ε α} {f : ε → ε'} {a : α} (h : x.mapError f = .ok a) :
    x = .ok a := by
  cases x with
  | error e => cases h
  | ok b => cases h; rfl

theorem error_of_map {ε : Type} {x : Except ε α} {f : α → β} {e : ε} (h : x.map f = .error e) : x = .error e := by
  cases x with
  | error e' => cases h; rfl
  | ok a => cases h

theorem except_map_bind {ε γ : Type} (x : Except ε α) (f : α → Except ε β) (g : β → γ) :
    (x >>= f).map g = x >>= fun a => (f a).map g := by
  cases x <;> rfl

/-- If there is a failure, `P` holds of it. -/
def FailsWith (P : Failure → Prop) (x : Except Failure α) : Prop :=
  ∀ f, x = .error f → P f

section

variable {P : Failure → Prop}

theorem failsWith_ok (a : α) : FailsWith P (.ok a) :=
  fun _ h => by cases h

theorem failsWith_error {f : Failure} (h : P f) : FailsWith P (.error f : Except Failure α) := by
  intro g hg
  cases hg
  exact h

theorem failsWith_require {c : Cause} (h : P (Failure.of c)) (o : Option α) : FailsWith P (c.require o) := by
  cases o with
  | none => exact failsWith_error h
  | some a => exact failsWith_ok a

theorem FailsWith.bind {x : Except Failure α} {g : α → Except Failure β} (hx : FailsWith P x)
    (hg : ∀ a, FailsWith P (g a)) : FailsWith P (x >>= g) := by
  cases x with
  | error f => exact failsWith_error (hx f rfl)
  | ok a => exact hg a

end

/-- A failure as it leaves a reported block. -/
def Block.report (b : Block) : Failure → Failure
  | .fault f => .fault (b.attach f)
  | .invalid vs => .invalid vs
  | .accident a => .accident a

namespace Action

/-! ## Running the parts of an operation -/

theorem runOn_bind (a : Action σ α) (f : α → Action σ β) (w : World σ) :
    (a >>= f).runOn w = match a.runOn w with
      | (.ok x, w') => (f x).runOn w'
      | (.error e, w') => (.error e, w') := by
  show (match a.runOn w with | (r, w') => ExceptT.bindCont (m := StateM (World σ)) f r w') = _
  rcases a.runOn w with ⟨_ | _, _⟩ <;> rfl

theorem runOn_tryCatch (a : Action σ α) (h : Failure → Action σ α) (w : World σ) :
    (tryCatch a h).runOn w = match a.runOn w with
      | (.ok x, w') => (.ok x, w')
      | (.error e, w') => (h e).runOn w' := by
  simp only [runOn, tryCatch, tryCatchThe, MonadExceptOf.tryCatch, ExceptT.tryCatch, ExceptT.run_mk,
    StateT.run_bind]
  show (StateT.run (ExceptT.run a) w >>= _ : Id _) = _
  rcases StateT.run (ExceptT.run a) w with ⟨_ | _, _⟩ <;> rfl

theorem runOn_map (f : α → β) (a : Action σ α) (w : World σ) :
    (f <$> a).runOn w = ((a.runOn w).1.map f, (a.runOn w).2) := by
  rw [← bind_pure_comp, runOn_bind]
  rcases a.runOn w with ⟨_ | _, _⟩ <;> rfl

theorem runOn_get (w : World σ) : (get : Action σ (World σ)).runOn w = (.ok w, w) := rfl

/-! ## Reading -/

/-- From every world the answer is `f` of the state, and the world after agrees with the one before. -/
def Reads (a : Action σ α) (f : σ → Except Failure α) : Prop :=
  ∀ w, ∃ w', a.runOn w = (f w.state, w') ∧ w.Agrees w'

theorem Reads.congr {a : Action σ α} {f g : σ → Except Failure α} (ha : a.Reads f) (h : ∀ s, f s = g s) :
    a.Reads g :=
  funext h ▸ ha

theorem reads_pure (x : α) : (pure x : Action σ α).Reads fun _ => .ok x :=
  fun w => ⟨w, rfl, .refl w⟩

theorem reads_throw (e : Failure) : (throw e : Action σ α).Reads fun _ => .error e :=
  fun w => ⟨w, rfl, .refl w⟩

theorem reads_fail (c : Cause) : (fail c : Action σ α).Reads fun _ => .error (Failure.of c) :=
  reads_throw _

theorem reads_orFail (c : Cause) (o : Option α) : (orFail c o : Action σ α).Reads fun _ => c.require o := by
  cases o with
  | none => exact reads_fail c
  | some a => exact reads_pure a

theorem reads_note (r : Record) : (note r : Action σ Unit).Reads fun _ => .ok () :=
  fun _ => ⟨_, rfl, rfl, rfl, rfl, rfl⟩

theorem reads_count (name key : String) : (count name key : Action σ Unit).Reads fun _ => .ok () :=
  fun _ => ⟨_, rfl, rfl, rfl, rfl, rfl⟩

theorem Reads.bind {a : Action σ α} {f : σ → Except Failure α} {g : α → Action σ β}
    {h : α → σ → Except Failure β} (ha : a.Reads f) (hg : ∀ x, (g x).Reads (h x)) :
    (a >>= g).Reads fun s => f s >>= fun x => h x s := by
  intro w
  obtain ⟨w₁, e₁, a₁⟩ := ha w
  rw [runOn_bind, e₁]
  dsimp only
  cases f w.state with
  | error e => exact ⟨w₁, rfl, a₁⟩
  | ok x =>
    obtain ⟨w₂, e₂, a₂⟩ := hg x w₁
    rw [a₁.state] at e₂
    exact ⟨w₂, e₂, a₁.trans a₂⟩

/-- Reading after something that always succeeds, such as a note. -/
theorem Reads.seq {a : Action σ Unit} {b : Action σ β} {f : σ → Except Failure β}
    (ha : a.Reads fun _ => .ok ()) (hb : b.Reads f) : (a >>= fun _ => b).Reads f :=
  ha.bind fun _ => hb

/-- Reading followed by something that hands its answer on. -/
theorem Reads.bind_self {a : Action σ α} {f : σ → Except Failure α} {g : α → Action σ α} (ha : a.Reads f)
    (hg : ∀ x, (g x).Reads fun _ => .ok x) : (a >>= g).Reads f := by
  refine (ha.bind hg).congr fun s => ?_
  cases f s <;> rfl

theorem Reads.map {a : Action σ α} {f : σ → Except Failure α} (ha : a.Reads f) (g : α → β) :
    (g <$> a).Reads fun s => (f s).map g := by
  have h := ha.bind fun x => reads_pure (σ := σ) (g x)
  rwa [bind_pure_comp] at h

/-- A handler of failures that reads. -/
theorem Reads.rescue {a : Action σ α} {f : σ → Except Failure α} {h : Failure → Action σ α}
    {k : Failure → Except Failure α} (ha : a.Reads f) (hh : ∀ e, (h e).Reads fun _ => k e) :
    (tryCatch a h).Reads fun s => (f s).tryCatch k := by
  intro w
  obtain ⟨w₁, e₁, a₁⟩ := ha w
  rw [runOn_tryCatch, e₁]
  dsimp only
  cases f w.state with
  | ok x => exact ⟨w₁, rfl, a₁⟩
  | error e =>
    obtain ⟨w₂, e₂, a₂⟩ := hh e w₁
    exact ⟨w₂, e₂, a₁.trans a₂⟩

/-- What a reported block does with a failure. -/
theorem reads_report (b : Block) (e : Failure) :
    ((match e with
      | .fault f => do
        note (b.record f)
        throw (.fault (b.attach f))
      | failure => throw failure : Action σ α)).Reads fun _ => .error (b.report e) := by
  cases e with
  | fault f => exact (reads_note _).seq (reads_throw _)
  | invalid vs => exact reads_throw _
  | accident x => exact reads_throw _

theorem Reads.block {a : Action σ α} {f : σ → Except Failure α} (b : Block) (ha : a.Reads f) :
    (b.run a).Reads fun s => (f s).mapError b.report := by
  refine (ha.rescue (reads_report b)).congr fun s => ?_
  cases f s <;> rfl

/-! ## Changing -/

/-- From every world the answer and the new state are `f` of the state; if that is a failure, the state is as it
was. -/
def Changes (a : Action σ α) (f : σ → Except Failure (α × σ)) : Prop :=
  ∀ w, ∃ w', a.runOn w = ((f w.state).map Prod.fst, w') ∧ (w.settle (f w.state)).Agrees w'

theorem Changes.congr {a : Action σ α} {f g : σ → Except Failure (α × σ)} (ha : a.Changes f)
    (h : ∀ s, f s = g s) : a.Changes g :=
  funext h ▸ ha

/-- What only reads, changes nothing. -/
theorem Reads.changes {a : Action σ α} {f : σ → Except Failure α} (ha : a.Reads f) :
    a.Changes fun s => (f s).map fun x => (x, s) := by
  intro w
  obtain ⟨w₁, e₁, a₁⟩ := ha w
  rw [e₁]
  dsimp only
  cases f w.state <;> exact ⟨w₁, rfl, a₁⟩

theorem Reads.bind_changes {a : Action σ α} {f : σ → Except Failure α} {g : α → Action σ β}
    {h : α → σ → Except Failure (β × σ)} (ha : a.Reads f) (hg : ∀ x, (g x).Changes (h x)) :
    (a >>= g).Changes fun s => f s >>= fun x => h x s := by
  intro w
  obtain ⟨w₁, e₁, a₁⟩ := ha w
  rw [runOn_bind, e₁]
  dsimp only
  cases f w.state with
  | error e => exact ⟨w₁, rfl, a₁⟩
  | ok x =>
    obtain ⟨w₂, e₂, a₂⟩ := hg x w₁
    rw [a₁.state] at e₂ a₂
    exact ⟨w₂, e₂, (a₁.settle _).trans a₂⟩

/-- Reading after a change. The sequence still changes all or nothing if the reading fails only where nothing
was changed. -/
theorem Changes.bind {a : Action σ α} {f : σ → Except Failure (α × σ)} {g : α → Action σ β}
    {h : α → σ → Except Failure β} (ha : a.Changes f) (hg : ∀ x, (g x).Reads (h x))
    (hs : ∀ s x s' e, f s = .ok (x, s') → h x s' = .error e → s' = s) :
    (a >>= g).Changes fun s => f s >>= fun p => (h p.1 p.2).map fun y => (y, p.2) := by
  intro w
  obtain ⟨w₁, e₁, a₁⟩ := ha w
  rw [runOn_bind, e₁]
  dsimp only
  cases hf : f w.state with
  | error e => exact ⟨w₁, rfl, by rwa [hf] at a₁⟩
  | ok p =>
    obtain ⟨x, s'⟩ := p
    rw [hf] at a₁
    obtain ⟨w₂, e₂, a₂⟩ := hg x w₁
    rw [show w₁.state = s' from a₁.state] at e₂
    have a₃ := a₁.trans a₂
    refine ⟨w₂, ?_, ?_⟩
    · show (g x).runOn w₁ = (Except.map Prod.fst ((h x s').map fun y => (y, s')), w₂)
      rw [e₂]
      cases h x s' <;> rfl
    · show (w.settle ((h x s').map fun y => (y, s'))).Agrees w₂
      cases hh : h x s' with
      | ok y => exact ⟨a₃.state, a₃.issued, a₃.salts, a₃.explain⟩
      | error e => exact ⟨a₃.state.trans (hs _ _ _ _ hf hh), a₃.issued, a₃.salts, a₃.explain⟩

/-- A change followed by something that always succeeds. -/
theorem Changes.bind_ok {a : Action σ α} {f : σ → Except Failure (α × σ)} {g : α → Action σ β} {k : α → β}
    (ha : a.Changes f) (hg : ∀ x, (g x).Reads fun _ => .ok (k x)) :
    (a >>= g).Changes fun s => (f s).map fun p => (k p.1, p.2) := by
  refine (ha.bind hg fun _ _ _ _ _ he => by cases he).congr fun s => ?_
  cases f s <;> rfl

/-- A change followed by something that hands its answer on. -/
theorem Changes.bind_self {a : Action σ α} {f : σ → Except Failure (α × σ)} {g : α → Action σ α}
    (ha : a.Changes f) (hg : ∀ x, (g x).Reads fun _ => .ok x) : (a >>= g).Changes f := by
  refine (ha.bind_ok hg).congr fun s => ?_
  cases f s <;> rfl

theorem Changes.map {a : Action σ α} {f : σ → Except Failure (α × σ)} (ha : a.Changes f) (g : α → β) :
    (g <$> a).Changes fun s => (f s).map fun p => (g p.1, p.2) := by
  have h := ha.bind_ok fun x => reads_pure (σ := σ) (g x)
  rwa [bind_pure_comp] at h

/-- A handler of failures that reads, after a change that failed. -/
theorem Changes.rescue {a : Action σ α} {f : σ → Except Failure (α × σ)} {h : Failure → Action σ α}
    {k : Failure → Except Failure α} (ha : a.Changes f) (hh : ∀ e, (h e).Reads fun _ => k e) :
    (tryCatch a h).Changes fun s => (f s).tryCatch fun e => (k e).map fun x => (x, s) := by
  intro w
  obtain ⟨w₁, e₁, a₁⟩ := ha w
  rw [runOn_tryCatch, e₁]
  dsimp only
  cases hf : f w.state with
  | ok p => exact ⟨w₁, rfl, by rwa [hf] at a₁⟩
  | error e =>
    rw [hf] at a₁
    obtain ⟨w₂, e₂, a₂⟩ := (hh e).changes w₁
    rw [show w₁.state = w.state from a₁.state] at e₂ a₂
    exact ⟨w₂, e₂, (World.Agrees.settle a₁ _).trans a₂⟩

theorem Changes.block {a : Action σ α} {f : σ → Except Failure (α × σ)} (b : Block) (ha : a.Changes f) :
    (b.run a).Changes fun s => (f s).mapError b.report := by
  refine (ha.rescue (reads_report b)).congr fun s => ?_
  cases f s <;> rfl

/-- The parts of the world after a change. -/
theorem Changes.ends {a : Action σ α} {f : σ → Except Failure (α × σ)} (ha : a.Changes f) (w : World σ) :
    ∃ w', a.runOn w = ((f w.state).map Prod.fst, w') ∧ w'.state = (w.settle (f w.state)).state ∧
      w'.issued = w.issued ∧ w'.salts = w.salts := by
  obtain ⟨w', e', a'⟩ := ha w
  have hi : (w.settle (f w.state)).issued = w.issued := by cases f w.state <;> rfl
  have hs : (w.settle (f w.state)).salts = w.salts := by cases f w.state <;> rfl
  exact ⟨w', e', a'.state, a'.issued.trans hi, a'.salts.trans hs⟩

end Action

end ParticipantDirectory
