/-!
  A pool of arenas that are reused from one parse to the next.

  Arenas are alike once they are cleared, so the pool is a number: how many lie idle. Taking from
  an empty pool makes a new arena, and an arena that comes back is kept.
-/

namespace EditionCheck.Script

/-- Arenas that wait to be used again. -/
structure Pool where
  idle : Nat
  deriving DecidableEq, Repr

namespace Pool

/-- One arena leaves the pool, a new one if none lies idle. -/
def take (p : Pool) : Pool := ⟨p.idle - 1⟩

/-- A cleared arena comes back. -/
def give (p : Pool) : Pool := ⟨p.idle + 1⟩

/-- A pool together with the number of arenas in use. -/
structure Ledger where
  pool : Pool
  lent : Nat
  deriving DecidableEq, Repr

/-- One use of a pool. -/
inductive Step where
  | take
  | give
  deriving DecidableEq, Repr

/-- Only an arena that is in use can come back. -/
def Ledger.step (l : Ledger) : Step → Ledger
  | .take => ⟨l.pool.take, l.lent + 1⟩
  | .give => if l.lent = 0 then l else ⟨l.pool.give, l.lent - 1⟩

/-- The states after each step. -/
def Ledger.run (l : Ledger) : List Step → List Ledger
  | [] => []
  | s :: rest => l.step s :: (l.step s).run rest

/-- Nothing is in use and `size` arenas lie idle. -/
def Ledger.start (size : Nat) : Ledger := ⟨⟨size⟩, 0⟩

end Pool
end EditionCheck.Script
