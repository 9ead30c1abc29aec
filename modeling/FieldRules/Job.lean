namespace FieldRules

/-- A computation that reads and changes a shared state and may wait. Between two waits it runs
    undisturbed by other computations. -/
inductive Job (σ α : Type) where
  | done (a : α)
  | observe (next : σ → Job σ α)
  | modify (change : σ → σ) (next : Job σ α)
  /-- Waits for a number of milliseconds. -/
  | wait (ms : Nat) (next : Job σ α)
  /-- Waits without end. -/
  | never

namespace Job

variable {σ α β : Type}

def bind (next : α → Job σ β) : Job σ α → Job σ β
  | done a => next a
  | observe k => observe fun s => (k s).bind next
  | modify f k => modify f (k.bind next)
  | wait ms k => wait ms (k.bind next)
  | never => never

def map (f : α → β) (job : Job σ α) : Job σ β := job.bind fun a => done (f a)

/-- Waits, unless there is nothing to wait for. -/
def pause (ms : Nat) (next : Job σ α) : Job σ α := if ms = 0 then next else wait ms next

/-- Runs a job beside one that waits for `ms` more milliseconds. When the wait is over, `resume`
    goes on with both; if the job becomes ready at the same time, it is not the first to go on. -/
def beside (resume : Job σ α → Job σ β) (ms : Nat) : Job σ α → Job σ β
  | done a => wait ms (resume (done a))
  | observe k => observe fun s => beside resume ms (k s)
  | modify f k => modify f (beside resume ms k)
  | wait n k =>
    if ms ≤ n then wait ms (resume (pause (n - ms) k)) else wait n (beside resume (ms - n) k)
  | never => wait ms (resume never)

/-- Runs two jobs at once and ends with the later of them. The first job starts first, and it goes
    on first whenever both are ready. -/
def both : Job σ α → Job σ β → Job σ (α × β)
  | done a, other => other.map fun b => (a, b)
  | observe k, other => observe fun s => both (k s) other
  | modify f k, other => modify f (both k other)
  | wait ms k, other => beside (both k) ms other
  | never, other => other.bind fun _ => never

/-- Runs all jobs at once. Their order decides only which goes on first of those that are ready. -/
def all : List (Job σ α) → Job σ (List α)
  | [] => done []
  | job :: jobs => (both job (all jobs)).map fun (a, rest) => a :: rest

/-- A job on a part of a larger state: `part` finds it there, and `update` changes it there. -/
def zoom {τ : Type} (part : τ → σ) (update : (σ → σ) → τ → τ) : Job σ α → Job τ α
  | done a => done a
  | observe k => observe fun t => (k (part t)).zoom part update
  | modify f k => modify (update f) (k.zoom part update)
  | wait ms k => wait ms (k.zoom part update)
  | never => never

/-- Runs a job that may wait for `patience` milliseconds in total. There is no result if that is not
    enough, but the state keeps what has been changed before. -/
def run : Job σ α → (patience : Nat) → σ → Option α × σ
  | done a, _, s => (some a, s)
  | observe k, patience, s => (k s).run patience s
  | modify f k, patience, s => k.run patience (f s)
  | wait ms k, patience, s => if ms ≤ patience then k.run (patience - ms) s else (none, s)
  | never, _, s => (none, s)

end Job

end FieldRules
