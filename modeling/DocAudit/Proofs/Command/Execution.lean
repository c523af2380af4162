import DocAudit.Command.Verify
import DocAudit.Proofs.Command.Verdicts
import DocAudit.Proofs.Files.Order
import DocAudit.Proofs.Markdown.Unread
import DocAudit.Proofs.Text.Utf8
import DocAudit.Proofs.Verification.Stopping
import Mathlib

/-!
# What a verification executes

Documents are found and read before the first command is run, so a document that cannot be read keeps all
commands from being run. After that, the commands of the documents run one after the other, up to the one
that stops the run.

## Contents

* `Runner.recorded`, `Runner.executions`: a runner with a record, and what it executes
* `IsExecution`: what can be executed of items
* `Executes`, `Executes.loop`: work that executes what it should, and one step of a loop
* `Spec.runAll_executes`: **what is executed of documents**
* `Project.IsDiscovered`, `Project.Refuses`: the documents at some paths, and what stands against a run
* `Project.runVerify_executes`: **nothing is executed, or the commands of the documents up to one that stops**
-/

namespace DocAudit

open Text

/-! ## Executions -/

/-- An item that was executed, and what came of it. -/
abbrev Execution := Item × Outcome ItemResult

/-- The item is the last one: it failed and the run is not to keep going, or it gave no result at all. -/
def Execution.stops (keepGoing : Bool) (e : Execution) : Bool :=
  match e.2 with
  | .ok r => r.status.failed && !keepGoing
  | .error _ => true

namespace Runner

variable {σ : Type} (run : Runner (Work σ))

/-- The runner with a record of what it executes. -/
def recorded : Runner (Work (List Execution × σ)) := fun item =>
  ExceptT.mk fun s => (((run item).run.run s.2).1,
    s.1 ++ [(item, ((run item).run.run s.2).1)], ((run item).run.run s.2).2)

/-- What is executed of items, up to the one that stops, and the world after it. -/
def executions (keepGoing : Bool) : List Item → σ → List Execution × σ
  | [], w => ([], w)
  | item :: rest, w =>
    let done := (run item).run.run w
    if Execution.stops keepGoing (item, done.1) then ([(item, done.1)], done.2)
    else ((item, done.1) :: (executions keepGoing rest done.2).1, (executions keepGoing rest done.2).2)

/-- One after the other: first one part and, when nothing in it stops, the other part. -/
def andThen (keepGoing : Bool) (first second : σ → List Execution × σ) (w : σ) : List Execution × σ :=
  if (first w).1.any (·.stops keepGoing) then first w
  else ((first w).1 ++ (second (first w).2).1, (second (first w).2).2)

/-- What is executed of an item alone. -/
def execution (item : Item) (w : σ) : List Execution × σ :=
  ([(item, ((run item).run.run w).1)], ((run item).run.run w).2)

theorem executions_cons (keepGoing : Bool) (item : Item) (rest : List Item) :
    run.executions keepGoing (item :: rest) =
      andThen keepGoing (run.execution item) (run.executions keepGoing rest) := by
  funext w
  unfold andThen execution
  rw [executions, List.any_cons, List.any_nil, Bool.or_false]
  rfl

theorem andThen_of_stops {keepGoing : Bool} {f g : σ → List Execution × σ} {w : σ}
    (h : (f w).1.any (·.stops keepGoing) = true) : andThen keepGoing f g w = f w := if_pos h

theorem andThen_of_goes {keepGoing : Bool} {f g : σ → List Execution × σ} {w : σ}
    (h : (f w).1.any (·.stops keepGoing) = false) :
    andThen keepGoing f g w = ((f w).1 ++ (g (f w).2).1, (g (f w).2).2) :=
  if_neg (Bool.eq_false_iff.mp h)

theorem andThen_assoc (keepGoing : Bool) (f g h : σ → List Execution × σ) :
    andThen keepGoing (andThen keepGoing f g) h = andThen keepGoing f (andThen keepGoing g h) := by
  funext w
  cases hf : (f w).1.any (·.stops keepGoing) with
  | true =>
    have hfg : andThen keepGoing f g w = f w := andThen_of_stops hf
    rw [andThen_of_stops (by rw [hfg, hf]), hfg, andThen_of_stops hf]
  | false =>
    have hfg := andThen_of_goes (g := g) hf
    rw [andThen_of_goes hf]
    cases hg : (g (f w).2).1.any (·.stops keepGoing) with
    | true =>
      rw [andThen_of_stops (by rw [hfg, List.any_append, hf, hg]; rfl), hfg, andThen_of_stops hg]
    | false =>
      rw [andThen_of_goes (by rw [hfg, List.any_append, hf, hg]; rfl), hfg, andThen_of_goes hg,
        List.append_assoc]

theorem executions_append (keepGoing : Bool) (xs ys : List Item) :
    run.executions keepGoing (xs ++ ys) =
      andThen keepGoing (run.executions keepGoing xs) (run.executions keepGoing ys) := by
  induction xs with
  | nil => rfl
  | cons x xs ih => rw [List.cons_append, executions_cons, ih, executions_cons, andThen_assoc]

end Runner

/-- What is executed of items: a beginning of them, up to the first one that stops or to the last one. -/
structure IsExecution (keepGoing : Bool) (items : List Item) (es : List Execution) : Prop where
  isPrefix : es.map (·.1) <+: items
  /-- No item before the last one stops. -/
  goesOn : ∀ e ∈ es.dropLast, e.stops keepGoing = false
  /-- When there are more items, the last one that was executed stops. -/
  complete : es.map (·.1) = items ∨ ∃ e, es.getLast? = some e ∧ e.stops keepGoing = true

/-- **What is executed is a beginning of the items that ends where it stops.** -/
theorem isExecution_executions {σ : Type} (run : Runner (Work σ)) (keepGoing : Bool) (items : List Item)
    (w : σ) : IsExecution keepGoing items (run.executions keepGoing items w).1 := by
  induction items generalizing w with
  | nil =>
    refine ⟨List.prefix_rfl, fun e he => ?_, .inl rfl⟩
    cases he
  | cons item rest ih =>
    rw [Runner.executions]
    split
    · next hstops =>
      refine ⟨⟨rest, rfl⟩, fun e he => ?_, .inr ⟨_, rfl, hstops⟩⟩
      cases he
    · next hstops =>
      obtain ⟨hbegins, hgoes, hcomplete⟩ := ih ((run item).run.run w).2
      refine ⟨List.cons_prefix_cons.mpr ⟨rfl, hbegins⟩, fun e he => ?_, ?_⟩
      · by_cases hnil : (run.executions keepGoing rest ((run item).run.run w).2).1 = []
        · rw [hnil] at he
          cases he
        · rw [List.dropLast_cons_of_ne_nil hnil] at he
          rcases List.mem_cons.mp he with rfl | he
          · exact Bool.eq_false_iff.mpr hstops
          · exact hgoes e he
      · rcases hcomplete with hall | ⟨e, he, hstops⟩
        · exact .inl (congrArg (item :: ·) hall)
        · exact .inr ⟨e, by rw [List.getLast?_cons, he]; rfl, hstops⟩

/-! ## Work that executes items -/

/-- What work gives, and what was executed for it: it fails as the last item did, and what it gives has
failed in such a way that the run is to end when something stops. -/
structure Tells {α : Type} (keepGoing : Bool) (failed : α → Bool) (es : List Execution) (x : Outcome α) : Prop where
  error : ∀ failure, x = .error failure ↔ ∃ item, es.getLast? = some (item, .error failure)
  ok : ∀ a, x = .ok a → es.any (·.stops keepGoing) = (failed a && !keepGoing)

/-- Work that executes something: it says so in the record, and otherwise does the same without one. -/
def Executes {σ α : Type} (keepGoing : Bool) (failed : α → Bool) (es : σ → List Execution × σ)
    (recorded : Work (List Execution × σ) α) (plain : Work σ α) : Prop :=
  ∀ log w, ∃ x, recorded.run.run (log, w) = (x, log ++ (es w).1, (es w).2) ∧
    plain.run.run w = (x, (es w).2) ∧ Tells keepGoing failed (es w).1 x

namespace Tells

variable {α β γ : Type} {keepGoing : Bool} {failed : α → Bool} {failed' : β → Bool} {failed'' : γ → Bool}
  {es es' : List Execution}

/-- Work that fails may be work for something else. -/
theorem of_error {failure : Failure} (h : Tells keepGoing failed es (.error failure)) :
    Tells keepGoing failed' es (.error failure) := by
  constructor
  · intro failure'
    rw [← h.error failure']
    constructor
    · intro he
      cases he
      rfl
    · intro he
      cases he
      rfl
  · intro a ha
    cases ha

/-- Something may be made of the result, if it has failed when the result has. -/
theorem of_ok {a : α} {b : β} (h : Tells keepGoing failed es (.ok a))
    (hfailed : (failed' b && !keepGoing) = (failed a && !keepGoing)) : Tells keepGoing failed' es (.ok b) := by
  constructor
  · intro failure
    rw [← h.error failure]
    constructor
    · intro he
      cases he
    · intro he
      cases he
  · intro b' hb
    cases hb
    rw [hfailed]
    exact h.ok a rfl

/-- Behind work after which the run goes on, other work tells what both of them executed. -/
theorem append {a : α} (h : Tells keepGoing failed es (.ok a)) (hgoes : es.any (·.stops keepGoing) = false)
    {x : Outcome β} (hx : Tells keepGoing failed' es' x) {g : β → γ}
    (hg : ∀ b, (failed'' (g b) && !keepGoing) = (failed' b && !keepGoing)) :
    Tells keepGoing failed'' (es ++ es') (x.map g) := by
  constructor
  · intro failure
    have hlast : (∃ item, (es ++ es').getLast? = some (item, .error failure)) ↔
        ∃ item, es'.getLast? = some (item, .error failure) := by
      refine exists_congr fun item => ?_
      rw [List.getLast?_append]
      cases hes : es'.getLast? with
      | some e => rfl
      | none =>
        -- nothing more was executed, and what was executed before has given a result
        constructor
        · intro he
          cases (h.error failure).mpr ⟨item, he⟩
        · intro he
          cases he
    rw [hlast, ← hx.error failure]
    cases x with
    | error failure' =>
      constructor
      · intro he
        cases he
        rfl
      · intro he
        cases he
        rfl
    | ok b =>
      constructor
      · intro he
        cases he
      · intro he
        cases he
  · intro c hc
    obtain ⟨b, hb, rfl⟩ := Outcome.map_eq_ok_iff.mp hc
    rw [List.any_append, hgoes, Bool.false_or, hg]
    exact hx.ok b hb

end Tells

namespace Executes

open Runner

variable {σ α β γ : Type} {keepGoing : Bool} {failed : α → Bool} {failed' : β → Bool} {failed'' : γ → Bool}
  {es es' : σ → List Execution × σ}

/-- Work that executes nothing. -/
theorem pure (a : α) (h : failed a = false) :
    Executes keepGoing failed (fun w => ([], w)) (pure a : Work (List Execution × σ) α) (pure a) := by
  intro log w
  refine ⟨.ok a, by rw [List.append_nil]; rfl, rfl, ?_, ?_⟩
  · intro failure
    constructor
    · intro he
      cases he
    · rintro ⟨item, he⟩
      cases he
  · intro b hb
    cases hb
    rw [h]
    rfl

/-- The runner with a record executes an item. -/
theorem item (run : Runner (Work σ)) (item : Item) :
    Executes keepGoing (·.status.failed) (run.execution item) (run.recorded item) (run item) := by
  intro log w
  refine ⟨((run item).run.run w).1, rfl, rfl, ?_, ?_⟩
  · intro failure
    constructor
    · intro he
      exact ⟨item, congrArg (fun x => some (item, x)) he⟩
    · rintro ⟨item', he⟩
      exact (Prod.mk.inj (Option.some.inj he)).2
  · intro r hr
    unfold execution Execution.stops
    rw [List.any_cons, List.any_nil, Bool.or_false, hr]

theorem map {x' : Work (List Execution × σ) α} {x : Work σ α} (hx : Executes keepGoing failed es x' x)
    {g : α → β} (hg : ∀ a, failed' (g a) = failed a) : Executes keepGoing failed' es (g <$> x') (g <$> x) := by
  intro log w
  obtain ⟨r, hrecorded, hplain, htells⟩ := hx log w
  refine ⟨r.map g, ?_, ?_, ?_⟩
  · rw [Work.run_map, hrecorded]
  · rw [Work.run_map, hplain]
  · cases r with
    | error failure => exact htells.of_error
    | ok a => exact htells.of_ok (by rw [hg])

/-- **One step of a run: some work, and the rest unless the run is to end.** -/
theorem loop {x' : Work (List Execution × σ) α} {x : Work σ α} (hx : Executes keepGoing failed es x' x)
    {y' : Work (List Execution × σ) β} {y : Work σ β} (hy : Executes keepGoing failed' es' y' y)
    {last : α → γ} (hlast : ∀ a, failed a = true → failed'' (last a) = true)
    {more : α → β → γ} (hmore : ∀ a b, failed'' (more a b) = (failed a || failed' b)) :
    Executes keepGoing failed'' (andThen keepGoing es es')
      (do let a ← x'; if failed a && !keepGoing then return last a else return more a (← y'))
      (do let a ← x; if failed a && !keepGoing then return last a else return more a (← y)) := by
  intro log w
  obtain ⟨r, hrecorded, hplain, htells⟩ := hx log w
  cases r with
  | error failure =>
    have hstops : (es w).1.any (·.stops keepGoing) = true := by
      obtain ⟨item, he⟩ := (htells.error failure).mp rfl
      exact List.any_eq_true.mpr ⟨_, List.mem_of_getLast? he, rfl⟩
    rw [andThen_of_stops hstops]
    exact ⟨.error failure, Work.run_bind_error hrecorded, Work.run_bind_error hplain, htells.of_error⟩
  | ok a =>
    have hany := htells.ok a rfl
    rw [Work.run_bind_ok hrecorded, Work.run_bind_ok hplain]
    cases hstops : failed a && !keepGoing with
    | true =>
      rw [hstops] at hany
      rw [andThen_of_stops hany]
      refine ⟨.ok (last a), rfl, rfl, htells.of_ok ?_⟩
      obtain ⟨ha, hkeep⟩ := Bool.and_eq_true_iff.mp hstops
      rw [ha, hlast a ha]
    | false =>
      rw [hstops] at hany
      rw [andThen_of_goes hany]
      obtain ⟨r, hrecorded', hplain', htells'⟩ := hy (log ++ (es w).1) (es w).2
      refine ⟨r.map (more a), ?_, ?_, htells.append hany htells' fun b => ?_⟩
      · rw [if_neg Bool.false_ne_true, bind_pure_comp, Work.run_map, hrecorded', List.append_assoc]
      · rw [if_neg Bool.false_ne_true, bind_pure_comp, Work.run_map, hplain']
      · rw [hmore, Bool.and_or_distrib_right, hstops, Bool.false_or]

end Executes

variable {σ : Type} (run : Runner (Work σ)) (keepGoing : Bool)

/-- What is executed of items. -/
theorem runItems_executes (items : List Item) :
    Executes keepGoing (fun rs : List ItemResult => rs.any (·.status.failed)) (run.executions keepGoing items)
      (runItems run.recorded keepGoing items) (runItems run keepGoing items) := by
  induction items with
  | nil => exact .pure [] rfl
  | cons item rest ih =>
    rw [Runner.executions_cons]
    refine (Executes.item run item).loop ih (fun r hr => ?_) fun r rs => ?_
    · rw [List.any_cons, hr, Bool.true_or]
    · rw [List.any_cons]

/-- **What is executed of documents.** -/
theorem Spec.runAll_executes (specs : List Spec) :
    Executes keepGoing (fun os : List SpecResult => os.any (·.status.failed))
      (run.executions keepGoing (specs.flatMap (·.items)))
      (Spec.runAll run.recorded keepGoing specs) (Spec.runAll run keepGoing specs) := by
  induction specs with
  | nil => exact .pure [] rfl
  | cons s rest ih =>
    rw [List.flatMap_cons, Runner.executions_append]
    have hspec : Executes keepGoing (·.status.failed) (run.executions keepGoing s.items)
        (s.run run.recorded keepGoing) (s.run run keepGoing) := by
      unfold Spec.run
      rw [bind_pure_comp, bind_pure_comp]
      exact (runItems_executes run keepGoing s.items).map fun rs => SpecResult.failed_status _
    refine hspec.loop ih (fun o ho => ?_) fun o os => ?_
    · rw [List.any_cons, ho, Bool.true_or]
    · rw [List.any_cons]

/-! ## Documents and what stands against them -/

/-- The items of a document: the executable blocks of its verification section that hold commands. -/
def Document.items (d : Document) (timeout : Int) : List Item :=
  match d.find? verificationSection with
  | none => []
  | some s => s.executableBlocks.filterMap (Item.ofBlock? d timeout)

/-- A document without items has no spec. -/
theorem Document.items_spec? (d : Document) (timeout : Int) :
    ((d.spec? timeout).toList.flatMap (·.items)) = d.items timeout := by
  unfold spec? items
  cases d.find? verificationSection with
  | none => rfl
  | some s =>
    dsimp only
    generalize s.executableBlocks.filterMap (Item.ofBlock? d timeout) = items
    cases items with
    | nil => rfl
    | cons item rest => exact List.append_nil _

theorem flatMap_filterMap_spec? (ds : List Document) (timeout : Int) :
    (ds.filterMap (Document.spec? · timeout)).flatMap (·.items) = ds.flatMap (·.items timeout) := by
  induction ds with
  | nil => rfl
  | cons d ds ih =>
    rw [List.flatMap_cons, ← d.items_spec? timeout, ← ih]
    cases h : d.spec? timeout with
    | none => simp only [List.filterMap_cons, h, Option.toList_none, List.flatMap_nil, List.nil_append]
    | some s =>
      simp only [List.filterMap_cons, h, Option.toList_some, List.flatMap_cons, List.flatMap_nil, List.append_nil]

namespace Project

variable {p : Project} {paths : List Path} {timeout : Int}

/-- The paths at which documents are looked for. -/
def roots (p : Project) (paths : List Path) : List Path := if paths.isEmpty then [p.config.docsDir] else paths

/-- The documents at a path: the file, or the markdown files below the directory that can be mapped. -/
def IsDocumentAt (p : Project) (root path : Path) : Prop :=
  if p.tree.isFile p.cwd root then path = p.resolve root
  else ∃ file ∈ p.tree.markdownFiles p.cwd root, isMappedDoc file root = true ∧ path = p.resolve file

/-- The documents at some paths, in order and each of them once. -/
structure IsDiscovered (p : Project) (paths docs : List Path) : Prop where
  inOrder : docs.Pairwise fun a b => a.le b = true
  nodup : docs.Nodup
  mem : ∀ path, path ∈ docs ↔ ∃ root ∈ p.roots paths, p.IsDocumentAt root path

/-- What stands against a run: the time for a command, a path that leads nowhere or cannot be followed, and a
document that cannot be read. -/
inductive Refuses (p : Project) (paths : List Path) (timeout : Int) : Failure → Prop
  | timeout (h : timeout ≤ 0) : Refuses p paths timeout .timeoutNotPositive
  | missing {root : Path} (hroot : root ∈ p.roots paths) (h : p.tree.has p.cwd root = false) :
    Refuses p paths timeout (.pathNotFound root)
  | overlong {root : Path} (hroot : root ∈ p.roots paths) (h : p.tree.isOverlong p.cwd root = true) :
    Refuses p paths timeout (.nameTooLong root)
  | unread {root path : Path} {failure : Failure} (hroot : root ∈ p.roots paths)
    (hpath : p.IsDocumentAt root path) (h : Document.IsUnread p.tree p.cwd path failure) :
    Refuses p paths timeout failure

theorem documentsAt_eq (p : Project) (root : Path) :
    p.documentsAt false root =
      if p.tree.isOverlong p.cwd root then .error (.nameTooLong root)
      else if !p.tree.has p.cwd root then .error (.pathNotFound root)
      else if p.tree.isFile p.cwd root then .ok [p.resolve root]
      else .ok (((p.tree.markdownFiles p.cwd root).filter (isMappedDoc · root)).map p.resolve) := by
  unfold documentsAt FileTree.exists? FileTree.unlessOverlong
  split
  · rfl
  · rfl

theorem mem_documentsAt_iff {root path : Path} {found : List Path} (h : p.documentsAt false root = .ok found) :
    path ∈ found ↔ p.IsDocumentAt root path := by
  obtain ⟨-, rfl⟩ := documentsAt_eq_ok_iff.mp h
  unfold IsDocumentAt
  split
  · rw [List.mem_singleton]
  · simp only [List.mem_map, List.mem_filter, Bool.false_or, and_assoc, eq_comm]

/-- Looking for documents fails for a path that leads nowhere or cannot be followed. -/
theorem documentsAt_eq_error_iff {root : Path} {failure : Failure} :
    p.documentsAt false root = .error failure ↔
      (p.tree.isOverlong p.cwd root = true ∧ failure = .nameTooLong root) ∨
      (p.tree.isOverlong p.cwd root = false ∧ p.tree.has p.cwd root = false ∧ failure = .pathNotFound root) := by
  rw [documentsAt_eq]
  cases hlong : p.tree.isOverlong p.cwd root with
  | true =>
    rw [if_pos rfl]
    constructor
    · intro h
      cases h
      exact .inl ⟨rfl, rfl⟩
    · rintro (⟨-, rfl⟩ | ⟨h, -⟩)
      · rfl
      · cases h
  | false =>
    rw [if_neg Bool.false_ne_true]
    cases hhas : p.tree.has p.cwd root with
    | false =>
      constructor
      · intro h
        cases h
        exact .inr ⟨rfl, rfl, rfl⟩
      · rintro (⟨h, -⟩ | ⟨-, -, rfl⟩)
        · cases h
        · rfl
    | true =>
      constructor
      · intro h
        rw [if_neg (by decide)] at h
        split at h
        · cases h
        · cases h
      · rintro (⟨h, -⟩ | ⟨-, h, -⟩)
        · cases h
        · cases h

/-- **The documents that a run goes through.** -/
theorem isDiscovered_of_discover {docs : List Path} (h : p.discover paths = .ok docs) :
    p.IsDiscovered paths docs := by
  obtain ⟨found, hfound, h⟩ := Outcome.bind_eq_ok_iff.mp h
  cases h
  refine ⟨Path.pairwise_mergeSort _, ?_, fun path => ?_⟩
  · rw [(List.mergeSort_perm _ _).nodup_iff]
    exact nodup_eraseDups _
  · rw [List.mem_mergeSort, List.mem_eraseDups, List.mem_flatten]
    constructor
    · rintro ⟨docs, hdocs, hpath⟩
      obtain ⟨root, hroot, hat⟩ := Outcome.mem_of_mapM hfound hdocs
      exact ⟨root, hroot, (mem_documentsAt_iff hat).mp hpath⟩
    · rintro ⟨root, hroot, hpath⟩
      obtain ⟨docs, hdocs, hat⟩ := Outcome.exists_of_mapM hfound hroot
      exact ⟨docs, hdocs, (mem_documentsAt_iff hat).mpr hpath⟩

theorem specs_eq (p : Project) (paths : List Path) (timeout : Int) :
    p.specs paths timeout =
      if timeout ≤ 0 then .error .timeoutNotPositive
      else p.discover paths >>= fun docs => docs.mapM p.read >>= fun ds =>
        .ok (ds.filterMap (Document.spec? · timeout)) := by
  unfold specs
  split
  · rfl
  · rfl

/-- The specs are those of the documents that are found, when all of them are read. -/
theorem exists_of_specs {specs : List Spec} (h : p.specs paths timeout = .ok specs) :
    ∃ docs ds, p.discover paths = .ok docs ∧ List.Forall₂ (fun path d => p.read path = .ok d) docs ds ∧
      specs = ds.filterMap (Document.spec? · timeout) := by
  rw [specs_eq] at h
  split at h
  · cases h
  · obtain ⟨docs, hdocs, h⟩ := Outcome.bind_eq_ok_iff.mp h
    obtain ⟨ds, hds, h⟩ := Outcome.bind_eq_ok_iff.mp h
    exact ⟨docs, ds, hdocs, Outcome.mapM_eq_ok_iff.mp hds, (Except.ok.inj h).symm⟩

/-- Without specs, something stands against the run. -/
theorem refuses_of_specs {failure : Failure} (h : p.specs paths timeout = .error failure) :
    p.Refuses paths timeout failure := by
  rw [specs_eq] at h
  split at h
  · next htimeout =>
    cases h
    exact .timeout htimeout
  · rcases Outcome.bind_eq_error_iff.mp h with h | ⟨docs, hdocs, h⟩
    · -- one of the paths leads nowhere
      rcases Outcome.bind_eq_error_iff.mp h with h | ⟨found, -, h⟩
      · obtain ⟨root, hroot, h⟩ := Outcome.exists_of_mapM_error h
        rcases documentsAt_eq_error_iff.mp h with ⟨hlong, rfl⟩ | ⟨-, hhas, rfl⟩
        · exact .overlong hroot hlong
        · exact .missing hroot hhas
      · cases h
    · -- one of the documents cannot be read
      rcases Outcome.bind_eq_error_iff.mp h with h | ⟨ds, -, h⟩
      · obtain ⟨path, hpath, h⟩ := Outcome.exists_of_mapM_error h
        obtain ⟨root, hroot, hat⟩ := ((isDiscovered_of_discover hdocs).mem path).mp hpath
        exact .unread hroot hat (Document.ofFile?_eq_error_iff.mp h)
      · cases h

/-- When something stands against the run, there are no specs. -/
theorem exists_specs_error {failure : Failure} (h : p.Refuses paths timeout failure) :
    ∃ failure', p.specs paths timeout = .error failure' := by
  cases hspecs : p.specs paths timeout with
  | error failure' => exact ⟨failure', rfl⟩
  | ok specs =>
    exfalso
    have htimeout : ¬ timeout ≤ 0 := by
      intro hle
      rw [specs_eq, if_pos hle] at hspecs
      cases hspecs
    obtain ⟨docs, ds, hdocs, hread, -⟩ := exists_of_specs hspecs
    have hroots : ∀ root ∈ p.roots paths, ∃ found, p.documentsAt false root = .ok found := by
      intro root hroot
      obtain ⟨found, hfound, -⟩ := Outcome.bind_eq_ok_iff.mp hdocs
      obtain ⟨found', -, hat⟩ := Outcome.exists_of_mapM hfound hroot
      exact ⟨found', hat⟩
    cases h with
    | timeout h => exact htimeout h
    | missing hroot h =>
      obtain ⟨found, hfound⟩ := hroots _ hroot
      cases hlong : p.tree.isOverlong p.cwd _ with
      | false => cases hfound.symm.trans (documentsAt_eq_error_iff.mpr (.inr ⟨hlong, h, rfl⟩))
      | true => cases hfound.symm.trans (documentsAt_eq_error_iff.mpr (.inl ⟨hlong, rfl⟩))
    | overlong hroot h =>
      obtain ⟨found, hfound⟩ := hroots _ hroot
      cases hfound.symm.trans (documentsAt_eq_error_iff.mpr (.inl ⟨h, rfl⟩))
    | unread hroot hpath h =>
      have hmem := ((isDiscovered_of_discover hdocs).mem _).mpr ⟨_, hroot, hpath⟩
      obtain ⟨d, -, hd⟩ := Outcome.exists_of_mapM (Outcome.mapM_eq_ok_iff.mpr hread) hmem
      cases hd.symm.trans (Document.ofFile?_eq_error_iff.mpr h)

/-- What stands against a run is put into words, but for a path that is refused and for a value in the
frontmatter of a document. -/
theorem message?_of_refuses {failure : Failure} (h : p.Refuses paths timeout failure) :
    failure.message? = none ↔ (∃ path, failure = .nameTooLong path) ∨ (∃ path, failure = .nulInPath path) ∨
      ∃ fault, failure = .frontmatter fault := by
  cases h with
  | timeout => simp only [Failure.message?, reduceCtorEq, exists_const_iff, and_false, or_self]
  | missing => simp [Failure.message?]
  | overlong => simp [Failure.message?]
  | unread _ _ h =>
    cases h with
    | nulInPath => simp [Failure.message?]
    | unreadable => simp [Failure.message?]
    | notText => simp [Failure.message?]
    | frontmatter => simp [Failure.message?]

/-- What is executed when all documents were found and read. -/
theorem runVerify_executions {σ : Type} (run : Runner (Work σ)) (keepGoing : Bool) {ds : List Document}
    (h : p.specs paths timeout = .ok (ds.filterMap (Document.spec? · timeout))) :
    Executes keepGoing (fun r : VerifyReport × Nat => r.2 == 1)
      (run.executions keepGoing (ds.flatMap (·.items timeout)))
      (p.runVerify run.recorded paths timeout keepGoing) (p.runVerify run paths timeout keepGoing) := by
  rw [runVerify_of_ok h, runVerify_of_ok h, ← flatMap_filterMap_spec?]
  refine (Spec.runAll_executes run keepGoing _).map fun outcomes => ?_
  cases outcomes.any (·.status.failed) with
  | true => rfl
  | false => rfl

/--
**A verification executes nothing, or the commands of its documents up to the one that stops it.**

Where something stands against the run, it fails before the first command and leaves the world as it was.
Otherwise all documents were found and read, and what is executed is a beginning of their commands: the
documents in order and each of them once, and in each the blocks of its verification section. Only the last
command that is executed can stop the run, by failing when the run is not to keep going or by giving no
result at all; then the run gives none either. A record of the executions changes nothing.
-/
theorem runVerify_executes {σ : Type} (p : Project) (run : Runner (Work σ)) (paths : List Path)
    (timeout : Int) (keepGoing : Bool) (w : σ) :
    let done := (p.runVerify run.recorded paths timeout keepGoing).run.run ([], w)
    (p.runVerify run paths timeout keepGoing).run.run w = (done.1, done.2.2) ∧
    -- something stands against the run
    ((∃ failure, p.Refuses paths timeout failure) →
      ∃ failure, p.Refuses paths timeout failure ∧ done = (.error failure, [], w) ∧
        (failure.message? = none ↔ (∃ path, failure = .nameTooLong path) ∨
          (∃ path, failure = .nulInPath path) ∨ ∃ fault, failure = .frontmatter fault)) ∧
    -- nothing does
    ((∀ failure, ¬ p.Refuses paths timeout failure) →
      ∃ docs ds, p.IsDiscovered paths docs ∧ List.Forall₂ (fun path d => p.read path = .ok d) docs ds ∧
        IsExecution keepGoing (ds.flatMap (·.items timeout)) done.2.1 ∧
        (keepGoing = true → (∀ e ∈ done.2.1, ∃ r, e.2 = .ok r) →
          done.2.1.map (·.1) = ds.flatMap (·.items timeout)) ∧
        ∀ failure, done.1 = .error failure ↔ ∃ item, done.2.1.getLast? = some (item, .error failure)) := by
  intro done
  cases hspecs : p.specs paths timeout with
  | error failure =>
    have hdone : done = (.error failure, [], w) := runVerify_of_error hspecs _
    have hrefuses := refuses_of_specs hspecs
    refine ⟨?_, fun _ => ⟨failure, hrefuses, hdone, message?_of_refuses hrefuses⟩, fun hnone => ?_⟩
    · rw [hdone]
      exact runVerify_of_error hspecs w
    · exact absurd hrefuses (hnone failure)
  | ok specs =>
    obtain ⟨docs, ds, hdocs, hread, rfl⟩ := exists_of_specs hspecs
    obtain ⟨x, hrecorded, hplain, htells⟩ := runVerify_executions run keepGoing hspecs [] w
    have hdone : done = (x, _, _) := hrecorded
    refine ⟨by rw [hdone]; exact hplain, ?_, fun _ => ?_⟩
    · rintro ⟨failure, hrefuses⟩
      obtain ⟨failure', herror⟩ := exists_specs_error hrefuses
      cases hspecs.symm.trans herror
    · have hexecution := isExecution_executions run keepGoing (ds.flatMap (·.items timeout)) w
      rw [hdone, List.nil_append]
      refine ⟨docs, ds, isDiscovered_of_discover hdocs, hread, hexecution, fun hkeep hall => ?_, htells.error⟩
      -- a run that keeps going is stopped only by an item without result
      rcases hexecution.complete with hcomplete | ⟨e, he, hstops⟩
      · exact hcomplete
      · obtain ⟨r, hr⟩ := hall e (List.mem_of_getLast? he)
        rw [Execution.stops, hr, hkeep] at hstops
        simp at hstops

/-- A project with a document of two commands. -/
def repeated : Project :=
  inRoot [("a.md".toList, "## Verification\n```bash\nfalse\n```\n```bash\ntrue\n```\n".toList)] {}

/-- A document whose frontmatter holds a day that does not exist. -/
def postdatedText : Text := "---\nd: 2020-13-45\n---\n## Verification\n```bash\necho hi\n```\n".toList

/-- A project with the document. -/
def postdated : Project := inRoot [("a.md".toList, postdatedText)] {}

/-- Commands that fail, all of them. -/
def inVain : Runner (Work Unit) := fun item => return { item, status := .fail }

theorem specs_postdated : postdated.specs [] 30000 = .error (.frontmatter .noSuchValue) := by
  rw [postdated, show postdatedText = _ from String.toList_ofList]
  decide +kernel

/-- The document is given twice, and the first of its commands is the only one that is executed. Of the other
project nothing is executed. -/
theorem runVerify_executes_repeated :
    let paths := ["docs".toList, "docs/a.md".toList].map Path.ofText
    let log := ((repeated.runVerify inVain.recorded paths 30000 false).run.run ([], ())).2.1
    (∀ failure, ¬ repeated.Refuses paths 30000 failure) ∧
    (∃ docs, ∃ ds : List Document, repeated.IsDiscovered paths docs ∧
      IsExecution false (ds.flatMap (·.items 30000)) log ∧ log.map (·.1.command) = ["false".toList]) ∧
    postdated.Refuses [] 30000 (.frontmatter .noSuchValue) ∧
    ∃ failure, (postdated.runVerify inVain.recorded [] 30000 true).run.run ([], ()) = (.error failure, [], ()) := by
  intro paths log
  have hspecs : repeated.specs paths 30000 = .ok [{
      file := Path.ofText "/docs/a.md".toList, line := 1
      items := ["false", "true"].map fun name => { command := name.toList } }] := by
    rw [repeated, String.toList_ofList, String.toList_ofList]
    decide +kernel
  have hnone : ∀ failure, ¬ repeated.Refuses paths 30000 failure := by
    intro failure hrefuses
    obtain ⟨failure', herror⟩ := exists_specs_error hrefuses
    cases hspecs.symm.trans herror
  have hlog : log.map (·.1.command) = ["false".toList] := by
    show (((repeated.runVerify inVain.recorded paths 30000 false).run.run ([], ())).2.1).map _ = _
    rw [runVerify_of_ok hspecs]
    rfl
  have hrefuses := refuses_of_specs specs_postdated
  obtain ⟨-, -, hrun⟩ := runVerify_executes repeated inVain paths 30000 false ()
  obtain ⟨docs, ds, hdocs, -, hexecution, -⟩ := hrun hnone
  obtain ⟨-, hrefused, -⟩ := runVerify_executes postdated inVain [] 30000 true ()
  obtain ⟨failure, -, hdone, -⟩ := hrefused ⟨_, hrefuses⟩
  exact ⟨hnone, ⟨docs, ds, hdocs, hexecution, hlog⟩, hrefuses, failure, hdone⟩

/-- The document is there and can be read, and still a run that is to keep going executes nothing of it and
has no words for that. -/
theorem runVerify_postdated :
    (∃ bytes text, postdated.tree.content? postdated.cwd (Path.ofText "/docs/a.md".toList) = some bytes ∧
      Utf8.decode? bytes = some text) ∧
    (∀ root ∈ postdated.roots [], postdated.tree.has postdated.cwd root = true) ∧
    ∀ (σ : Type) (run : Runner (Work σ)) (w : σ), ∃ failure,
      (postdated.runVerify run.recorded [] 30000 true).run.run ([], w) = (.error failure, [], w) ∧
        failure.message? = none := by
  refine ⟨⟨Utf8.encode postdatedText, postdatedText, ?_, Utf8.decode?_encode _⟩, ?_, fun σ run w => ?_⟩
  · rw [postdated, show postdatedText = _ from String.toList_ofList]
    decide +kernel
  · rw [postdated, show postdatedText = _ from String.toList_ofList]
    decide +kernel
  · exact ⟨_, runVerify_of_error specs_postdated ([], w), rfl⟩

end Project

end DocAudit
