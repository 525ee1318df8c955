import ParticipantDirectory.Proofs.Framework.Action

/-!
# Blocks within blocks

A `Program` is an operation as it is written, with reported blocks around its parts, and `Program.bare` the same without
them. The blocks add nothing but context: a program ends as the bare one does, in the same world, except for a fault,
which leaves the blocks that are open there (`Program.runOn_perform`). It gets the context of the outermost of them and
a record from each, the innermost first: the outer of two blocks has the last word (`Block.attach_attach`), and a block
notes a fault in the same words whatever blocks it has left before (`Block.record_attach`).
-/

namespace ParticipantDirectory

variable {σ α : Type}

namespace Block

/-! ## Leaving blocks -/

/-- A fault as it leaves blocks, of which the outermost comes first. -/
def attachOuter : List Block → Fault → Fault
  | [], f => f
  | outermost :: _, f => outermost.attach f

/-- The records of a fault that leaves blocks, of which the outermost comes first. -/
def records (blocks : List Block) (f : Fault) : List Record :=
  blocks.reverse.map (·.record f)

/-- How what ends inside of blocks ends outside of them. -/
def leave (blocks : List Block) : Except Failure α × World σ → Except Failure α × World σ
  | (.error (.fault f), w) =>
    (.error (.fault (attachOuter blocks f)), { w with journal := w.journal ++ records blocks f })
  | ending => ending

theorem attach_attach (b inner : Block) (f : Fault) : b.attach (inner.attach f) = b.attach f := rfl

theorem record_attach (b inner : Block) (f : Fault) : b.record (inner.attach f) = b.record f := rfl

theorem attach_attachOuter (b : Block) (blocks : List Block) (f : Fault) :
    b.attach (attachOuter blocks f) = b.attach f := by
  cases blocks with
  | nil => rfl
  | cons inner rest => exact attach_attach b inner f

theorem record_attachOuter (b : Block) (blocks : List Block) (f : Fault) :
    b.record (attachOuter blocks f) = b.record f := by
  cases blocks with
  | nil => rfl
  | cons inner rest => exact record_attach b inner f

theorem records_cons (b : Block) (blocks : List Block) (f : Fault) :
    records (b :: blocks) f = records blocks f ++ [b.record f] := by
  rw [records, List.reverse_cons, List.map_append]
  rfl

theorem leave_nil (ending : Except Failure α × World σ) : leave [] ending = ending := by
  rcases ending with ⟨(f | vs | a) | x, w⟩
  · rw [leave, records, List.reverse_nil, List.map_nil, List.append_nil]
    rfl
  · rfl
  · rfl
  · rfl

/-- Blocks are left one after the other. -/
theorem leave_cons (b : Block) (blocks : List Block) (ending : Except Failure α × World σ) :
    leave (b :: blocks) ending = leave [b] (leave blocks ending) := by
  rcases ending with ⟨(f | vs | a) | x, w⟩
  · have hfault : attachOuter [b] (attachOuter blocks f) = attachOuter (b :: blocks) f :=
      attach_attachOuter b blocks f
    have hrecords : records [b] (attachOuter blocks f) = [b.record f] :=
      congrArg (fun r => [r]) (record_attachOuter b blocks f)
    rw [leave, leave, leave, hfault, hrecords, records_cons, List.append_assoc]
  · rfl
  · rfl
  · rfl

theorem runOn_run (b : Block) (body : Action σ α) (w : World σ) :
    (b.run body).runOn w = leave [b] (body.runOn w) := by
  rw [run, Action.runOn_tryCatch]
  rcases body.runOn w with ⟨(f | vs | a) | x, w'⟩ <;> rfl

end Block

/-! ## Programs -/

/-- An operation as it is written: plain parts, parts one after the other, and reported blocks around parts. -/
inductive Program (σ : Type) : Type → Type 1 where
  | plain {α : Type} (a : Action σ α) : Program σ α
  | seq {α β : Type} (first : Program σ β) (rest : β → Program σ α) : Program σ α
  | block {α : Type} (b : Block) (inner : Program σ α) : Program σ α

namespace Program

/-- What a program does. -/
def perform {α : Type} : Program σ α → Action σ α
  | plain a => a
  | seq first rest => first.perform >>= fun x => (rest x).perform
  | block b inner => b.run inner.perform

/-- What a program would do without its blocks. -/
def bare {α : Type} : Program σ α → Action σ α
  | plain a => a
  | seq first rest => first.bare >>= fun x => (rest x).bare
  | block _ inner => inner.bare

/-- The blocks that are open where a program fails, the outermost first. -/
def openBlocks {α : Type} : Program σ α → World σ → List Block
  | plain _, _ => []
  | seq first rest, w =>
    match first.bare.runOn w with
    | (.ok x, w') => (rest x).openBlocks w'
    | (.error _, _) => first.openBlocks w
  | block b inner, w => b :: inner.openBlocks w

/-- An operation inside blocks, of which the outermost comes first. -/
def nested (blocks : List Block) (body : Action σ α) : Program σ α :=
  blocks.foldr block (plain body)

theorem perform_nested (blocks : List Block) (body : Action σ α) :
    (nested blocks body).perform = blocks.foldr Block.run body := by
  induction blocks with
  | nil => rfl
  | cons b rest ih => exact congrArg b.run ih

theorem bare_nested (blocks : List Block) (body : Action σ α) : (nested blocks body).bare = body := by
  induction blocks with
  | nil => rfl
  | cons b rest ih => exact ih

theorem openBlocks_nested (blocks : List Block) (body : Action σ α) (w : World σ) :
    (nested blocks body).openBlocks w = blocks := by
  induction blocks with
  | nil => rfl
  | cons b rest ih => exact congrArg (b :: ·) ih

/-- A program ends as it would without its blocks, once it has left those that are open. -/
theorem runOn_perform (p : Program σ α) (w : World σ) :
    p.perform.runOn w = Block.leave (p.openBlocks w) (p.bare.runOn w) := by
  induction p generalizing w with
  | plain a => exact (Block.leave_nil _).symm
  | seq first rest ihFirst ihRest =>
    rw [perform, bare, Action.runOn_bind, Action.runOn_bind, ihFirst, openBlocks]
    -- The rest is done only after an answer, and an answer has left no block.
    rcases first.bare.runOn w with ⟨(f | vs | a) | x, w'⟩
    · rfl
    · rfl
    · rfl
    · exact ihRest x w'
  | block b inner ih =>
    rw [perform, Block.runOn_run, ih]
    exact (Block.leave_cons b _ _).symm

/-! ## Main statement -/

/-- Whatever blocks stand within or behind each other in a program, and whatever is done before and after them, it ends
as it does without them, in the same world, unless that is a fault. A fault then has the operation, the id and the
address of the outermost of the blocks in which it arose, an absent address too, and is otherwise the same: its cause,
which decides its name, wording, code, category, severity, status and attributes, its moment and what it tells for
debugging. The journal has one warning more for each of these blocks, the innermost first, with the operation and the id
of the block and the wording and the code of the fault. For blocks directly within each other these are all of them. -/
theorem blocks_only_add_context (p : Program σ α) (w : World σ) :
    (p.perform.runOn w = match p.bare.runOn w with
      | (.error (.fault f), w') =>
        (.error (.fault (match p.openBlocks w with
          | [] => f
          | outermost :: _ =>
            { f with
              context :=
                { f.context with
                  operation := .str outermost.operation
                  serviceGroupId := .str outermost.serviceGroupId
                  requestUri := .ofString? outermost.requestUri } })),
          { w' with
            journal := w'.journal ++ (p.openBlocks w).reverse.map fun b =>
              { logger := "smp_directory.services.request_logging"
                level := .warning
                message := b.mark ++ b.operation ++ "(" ++ b.serviceGroupId ++ ") failed: " ++ f.cause.message
                context :=
                  { operation := .str b.operation, serviceGroupId := .str b.serviceGroupId
                    errorCode := f.cause.code } } })
      | ending => ending) ∧
      ∀ (blocks : List Block) (body : Action σ α),
        (nested blocks body).perform = blocks.foldr Block.run body ∧ (nested blocks body).bare = body ∧
          (nested blocks body).openBlocks w = blocks := by
  refine ⟨?_, fun blocks body =>
    ⟨perform_nested blocks body, bare_nested blocks body, openBlocks_nested blocks body w⟩⟩
  rw [runOn_perform]
  rcases p.bare.runOn w with ⟨(f | vs | a) | x, w'⟩
  · cases p.openBlocks w with
    | nil => rfl
    | cons outermost rest => rfl
  · rfl
  · rfl
  · rfl

example :
    let blocks : List Block := [⟨"[B] ", "outer", "a::b", none⟩, ⟨"", "inner", "c::d", some "/c"⟩]
    let fault : Action Unit Unit := Action.fail .featureNotSupported
    ((nested blocks fault).perform.runOn { state := () }).2.journal.map (·.message) =
      ["inner(c::d) failed: This SMP server does not support the BusinessCard API",
        "[B] outer(a::b) failed: This SMP server does not support the BusinessCard API"] := by
  rfl

end Program

end ParticipantDirectory
