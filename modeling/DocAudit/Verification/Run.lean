import DocAudit.Verification.Status

/-!
# Verification runs

The items of all documents are run one after the other. A failure stops the run, unless it is to keep
going: the other items of the document are skipped and later documents are left out.

What running an item does is up to a function into any monad, so it may depend on everything that was run
before.

## Contents

* `Spec.run`, `Spec.runAll`
* `SpecResult`
-/

namespace DocAudit

/-- The results of the items of a document. -/
structure SpecResult where
  spec : Spec
  results : List ItemResult
  deriving Repr

namespace SpecResult

/-- The strongest status of the items. -/
def status (r : SpecResult) : Status := Status.strongest (r.results.map (·.status))

end SpecResult

/-- What running an item does. -/
abbrev Runner (m : Type → Type) := Item → m ItemResult

/-- The items one after the other, up to a failure; the rest is skipped. -/
def runItems {m : Type → Type} [Monad m] (run : Runner m) (keepGoing : Bool) :
    List Item → m (List ItemResult)
  | [] => return []
  | item :: rest => do
    let result ← run item
    if result.status.failed && !keepGoing then return result :: rest.map .skipped
    else return result :: (← runItems run keepGoing rest)

/-- Work that depends on the state is done one after the other. -/
theorem run_bind_state {σ α β : Type} (x : StateM σ α) (f : α → StateM σ β) (w : σ) :
    (x >>= f).run w = (f (x.run w).1).run (x.run w).2 := rfl

/-- There is one result for every item. -/
theorem length_runItems {σ : Type} (run : Runner (StateM σ)) (keepGoing : Bool) (items : List Item)
    (w : σ) : ((runItems run keepGoing items).run w).1.length = items.length := by
  induction items generalizing w with
  | nil => rfl
  | cons item rest ih =>
    rw [runItems, run_bind_state]
    split
    · exact congrArg (· + 1) (List.length_map _)
    · rw [run_bind_state]
      exact congrArg (· + 1) (ih _)

namespace Spec

/-- The items of a document. -/
def run {m : Type → Type} [Monad m] (r : Runner m) (keepGoing : Bool) (s : Spec) : m SpecResult :=
  return { spec := s, results := ← runItems r keepGoing s.items }

/-- The documents one after the other, up to one that fails. -/
def runAll {m : Type → Type} [Monad m] (r : Runner m) (keepGoing : Bool) :
    List Spec → m (List SpecResult)
  | [] => return []
  | s :: rest => do
    let result ← s.run r keepGoing
    if result.status.failed && !keepGoing then return [result]
    else return result :: (← runAll r keepGoing rest)

end Spec

end DocAudit
