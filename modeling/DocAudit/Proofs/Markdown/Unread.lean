import DocAudit.Proofs.Command.Documents
import DocAudit.Proofs.Text.Utf8
import DocAudit.Proofs.Yaml.Faults

/-!
# Documents that cannot be read

Markdown is read whatever it looks like, and so is a frontmatter that is malformed. What can stand
against a document is its file, the bytes in it, and a frontmatter that is well formed but has no value:
then there is no document at all, and no words for the fault either.

## Contents

* `Frontmatter.shown`, `Frontmatter.writes_readTable`: the leaves of a table that go into its record
* `Frontmatter.StandsAgainst`: the faults of a frontmatter that stand against its document
* `Frontmatter.read_eq_error_iff`: **the faults of a frontmatter**
* `Document.read_eq_error_iff`: **a text is a document unless its frontmatter stands against it**
* `Document.IsUnread`, `Document.ofFile?_eq_error_iff`: **why there is no document in a file**
* `Document.ofFile?_faults`: **why a file or a text is no document**
-/

namespace DocAudit

open Text

namespace Frontmatter

/-! ## Leaves that are written -/

/-- The leaves of a single value and of its names; of lists and tables nothing is written. -/
def shownSingle (names : List Yaml.Leaf) : Yaml.Value → List Yaml.Leaf
  | .leaf l => names ++ [l]
  | .set members => names ++ members
  | _ => []

/-- The leaves of a pair that are written. -/
def shownPair : Yaml.Leaf × Yaml.Value → List Yaml.Leaf
  | (key, .table inner) => inner.flatMap fun (sub, value) => shownSingle [key, sub] value
  | (key, value) => shownSingle [key] value

/-- The leaves of a table that are written into the record. -/
def shown (pairs : List (Yaml.Leaf × Yaml.Value)) : List Yaml.Leaf := pairs.flatMap shownPair

/-- The result is there when all the leaves can be written, and otherwise a number is too long. -/
structure Writes {α : Type} (ls : List Yaml.Leaf) (x : Yaml.Outcome α) : Prop where
  ok : (∀ l ∈ ls, l.isOverlong = false) → ∃ a, x = .ok a
  error : (∃ l ∈ ls, l.isOverlong = true) → x = .error .numberTooLong

namespace Writes

variable {α β : Type} {ls ms : List Yaml.Leaf}

/-- What comes without writing a leaf that is too long. -/
theorem ok_of_short (a : α) (h : ∀ l ∈ ls, l.isOverlong = false) :
    Writes ls (.ok a : Yaml.Outcome α) where
  ok _ := ⟨a, rfl⟩
  error := by
    rintro ⟨l, hl, hlong⟩
    exact absurd hlong (Bool.eq_false_iff.mp (h l hl))

/-- Of two steps, the first one writes its leaves first. -/
theorem bind {x : Yaml.Outcome α} {f : α → Yaml.Outcome β} (hx : Writes ls x)
    (hf : ∀ a, Writes ms (f a)) : Writes (ls ++ ms) (x >>= f) := by
  constructor
  · intro h
    obtain ⟨a, rfl⟩ := hx.ok fun l hl => h l (List.mem_append_left ms hl)
    exact (hf a).ok fun l hl => h l (List.mem_append_right ls hl)
  · rintro ⟨l, hl, hlong⟩
    -- whichever step it is that fails, the fault is the same
    by_cases hfirst : ∃ l ∈ ls, l.isOverlong = true
    · rw [hx.error hfirst]
      rfl
    · have hshort : ∀ l ∈ ls, l.isOverlong = false := fun l hl =>
        Bool.eq_false_iff.mpr fun hlong => hfirst ⟨l, hl, hlong⟩
      obtain ⟨a, rfl⟩ := hx.ok hshort
      refine (hf a).error ⟨l, ?_, hlong⟩
      rcases List.mem_append.mp hl with hl | hl
      · exact absurd ⟨l, hl, hlong⟩ hfirst
      · exact hl

theorem map {x : Yaml.Outcome α} (f : α → β) (hx : Writes ls x) :
    Writes ls (x >>= fun a => return f a) := by
  have hlast : ∀ a, Writes [] (.ok (f a)) := fun a => ok_of_short (f a) nofun
  have h := hx.bind hlast
  rwa [List.append_nil] at h

/-- A fold writes what its steps write. -/
theorem foldlM {f : β → α → Yaml.Outcome β} {g : α → List Yaml.Leaf}
    (h : ∀ b a, Writes (g a) (f b a)) :
    ∀ (as : List α) (b : β), Writes (as.flatMap g) (as.foldlM f b)
  | [], b => ok_of_short b nofun
  | a :: as, b => by
    rw [List.flatMap_cons, List.foldlM_cons]
    exact (h b a).bind fun b' => foldlM h as b'

end Writes

theorem writes_textOf (l : Yaml.Leaf) : Writes [l] (textOf l) := by
  unfold textOf
  constructor
  · intro h
    rw [if_neg (by rw [h l (List.mem_singleton_self l)]; exact Bool.false_ne_true)]
    exact ⟨_, rfl⟩
  · rintro ⟨l', hl, hlong⟩
    obtain rfl := List.mem_singleton.mp hl
    rw [if_pos hlong]

theorem writes_leafText (l : Yaml.Leaf) : Writes [l] (leafText l) := by
  have hshort : ∀ l : Yaml.Leaf, l.isOverlong = false → ∀ l' ∈ [l], l'.isOverlong = false := by
    intro l h l' hl
    rwa [List.mem_singleton.mp hl]
  match l with
  | .bool true => exact .ok_of_short _ (hshort _ rfl)
  | .bool false => exact .ok_of_short _ (hshort _ rfl)
  | .null => exact .ok_of_short _ (hshort _ rfl)
  | .int n => exact writes_textOf (.int n)
  | .float x => exact writes_textOf (.float x)
  | .str s => exact writes_textOf (.str s)
  | .bytes b => exact writes_textOf (.bytes b)
  | .date d => exact writes_textOf (.date d)
  | .moment m => exact writes_textOf (.moment m)

theorem writes_setText (members : List Yaml.Leaf) : Writes members (setText members) := by
  unfold setText
  split
  · next hempty =>
    rw [List.isEmpty_iff.mp hempty]
    exact .ok_of_short _ nofun
  split
  · next hlong =>
    refine ⟨fun h => ?_, fun _ => rfl⟩
    obtain ⟨l, hl, hlong⟩ := List.any_eq_true.mp hlong
    exact absurd hlong (Bool.eq_false_iff.mp (h l hl))
  · next hshort =>
    refine .ok_of_short _ fun l hl => Bool.eq_false_iff.mpr fun hlong => hshort ?_
    exact List.any_eq_true.mpr ⟨l, hl, hlong⟩

/-- A single value is written with its names, and nothing is written of other values. -/
theorem writes_putSingle (r : Record) {names : List Yaml.Leaf} {name : Yaml.Outcome Text}
    (h : Writes names name) : ∀ value, Writes (shownSingle names value) (putSingle r name value)
  | .leaf l => h.bind fun name => (writes_leafText l).map (r.put name)
  | .set members => h.bind fun name => (writes_setText members).map (r.put name)
  | .table _ => .ok_of_short r nofun
  | .list _ => .ok_of_short r nofun

/-- **A table is written when its leaves can be.** -/
theorem writes_readTable (pairs : List (Yaml.Leaf × Yaml.Value)) :
    Writes (shown pairs) (readTable pairs) := by
  unfold readTable
  refine Writes.foldlM (fun r (key, value) => ?_) pairs []
  cases value with
  | table inner =>
    refine Writes.foldlM (fun r (sub, value) => ?_) inner r
    exact writes_putSingle r ((writes_textOf key).bind fun name => (writes_textOf sub).map _) value
  | leaf l => exact writes_putSingle r (writes_textOf key) (.leaf l)
  | set members => exact writes_putSingle r (writes_textOf key) (.set members)
  | list items => exact writes_putSingle r (writes_textOf key) (.list items)

/-! ## Faults of a frontmatter -/

/-- The fault of a frontmatter that stands against its document. -/
inductive StandsAgainst (ls : List Text) : Yaml.Fault → Prop
  /-- The lines are not malformed, but they have no value. -/
  | noValue {fault : Yaml.Fault} : Yaml.Value.ofText? (joinWith ['\n'] ls) = .error fault →
    fault ≠ .malformed → StandsAgainst ls fault
  /-- A number that is to be written has too many digits. -/
  | numberTooLong {pairs : List (Yaml.Leaf × Yaml.Value)} {l : Yaml.Leaf} :
    Yaml.Value.ofText? (joinWith ['\n'] ls) = .ok (some (.table pairs)) → l ∈ shown pairs →
    l.isOverlong = true → StandsAgainst ls .numberTooLong

variable {ls : List Text} {fault : Yaml.Fault}

/-- A table cannot be read when one of its leaves cannot be written. -/
theorem readTable_eq_error_iff {pairs : List (Yaml.Leaf × Yaml.Value)} :
    readTable pairs = .error fault ↔
      fault = .numberTooLong ∧ ∃ l ∈ shown pairs, l.isOverlong = true := by
  have hwrites := writes_readTable pairs
  constructor
  · intro h
    by_cases hlong : ∃ l ∈ shown pairs, l.isOverlong = true
    · rw [hwrites.error hlong] at h
      exact ⟨(Except.error.inj h).symm, hlong⟩
    · obtain ⟨r, hr⟩ := hwrites.ok fun l hl =>
        Bool.eq_false_iff.mpr fun hlong' => hlong ⟨l, hl, hlong'⟩
      rw [hr] at h
      cases h
  · rintro ⟨rfl, hlong⟩
    exact hwrites.error hlong

/-- **The faults of a frontmatter are those that stand against its document.** -/
theorem read_eq_error_iff : Frontmatter.read ls = .error fault ↔ StandsAgainst ls fault := by
  unfold Frontmatter.read
  constructor
  · intro h
    -- a table, another value, a malformed text, and a text with another fault
    split at h
    · next pairs hvalue =>
      obtain ⟨rfl, l, hl, hlong⟩ := readTable_eq_error_iff.mp h
      exact .numberTooLong hvalue hl hlong
    · cases h
    · cases h
    · next fault' hmalformed hvalue =>
      cases h
      exact .noValue hvalue hmalformed
  · rintro (⟨hvalue, hfault⟩ | ⟨hvalue, hl, hlong⟩)
    · rw [hvalue]
      cases fault <;> first | rfl | exact absurd rfl hfault
    · rw [hvalue]
      exact readTable_eq_error_iff.mpr ⟨rfl, _, hl, hlong⟩

/-- **What stands against a document is not malformed**: it comes from the nodes of the frontmatter or
from a scalar in them, or is a number that cannot be written. -/
theorem StandsAgainst.hasSource (h : StandsAgainst ls fault) : fault ≠ .malformed ∧
    (Yaml.Value.HasSource (joinWith ['\n'] ls) fault ∨ fault = .numberTooLong) := by
  cases h with
  | noValue hvalue hfault => exact ⟨hfault, Or.inl (Yaml.Value.hasSource_of_ofText? hvalue hfault)⟩
  | numberTooLong _ _ _ => exact ⟨nofun, Or.inr rfl⟩

end Frontmatter

namespace Document

/-! ## Faults of a document -/

/-- **A text is a document unless its frontmatter stands against it.** -/
theorem read_eq_error_iff {path : Path} {text : Text} {fault : Yaml.Fault} :
    read path text = .error fault ↔ ∃ inner,
      (Frontmatter.split (lines text)).1 = some inner ∧ Frontmatter.StandsAgainst inner fault := by
  unfold read
  simp only
  cases (Frontmatter.split (lines text)).1 with
  | none =>
    constructor
    · intro h
      cases h
    · rintro ⟨inner, h, -⟩
      cases h
  | some inner =>
    have hstands : Frontmatter.read inner = .error fault ↔
        ∃ inner', some inner = some inner' ∧ Frontmatter.StandsAgainst inner' fault := by
      rw [Frontmatter.read_eq_error_iff]
      exact ⟨fun h => ⟨inner, rfl, h⟩, fun ⟨inner', he, h⟩ => Option.some.inj he ▸ h⟩
    rw [← hstands, Option.mapM_some]
    cases Frontmatter.read inner with
    | error fault' =>
      constructor
      · intro h
        cases h
        rfl
      · intro h
        cases h
        rfl
    | ok record => exact ⟨nofun, nofun⟩

/-- Why there is no document in a file: the path cannot be that of a file, there is no file, what is in
it is no text, or the frontmatter of the text stands against it. -/
inductive IsUnread (t : FileTree) (cwd path : Path) : Failure → Prop
  | nulInPath {name : Text} : name ∈ path.names → '\x00' ∈ name →
    IsUnread t cwd path (.nulInPath path)
  | unreadable : (∀ name ∈ path.names, '\x00' ∉ name) → t.content? cwd path = none →
    IsUnread t cwd path (.unreadable path)
  | notText {bytes : List UInt8} : (∀ name ∈ path.names, '\x00' ∉ name) →
    t.content? cwd path = some bytes → Utf8.decode? bytes = none → IsUnread t cwd path (.notText path)
  | frontmatter {bytes : List UInt8} {text : Text} {inner : List Text} {fault : Yaml.Fault} :
    (∀ name ∈ path.names, '\x00' ∉ name) → t.content? cwd path = some bytes →
    Utf8.decode? bytes = some text → (Frontmatter.split (lines text)).1 = some inner →
    Frontmatter.StandsAgainst inner fault → IsUnread t cwd path (.frontmatter fault)

variable {t : FileTree} {cwd path : Path} {failure : Failure}

/-- **There is a document in a file unless something stands against it.** -/
theorem ofFile?_eq_error_iff : ofFile? t cwd path = .error failure ↔ IsUnread t cwd path failure := by
  -- a path that is refused is not looked for, so the other causes need that it is not
  by_cases hnul : path.refuseNul = .ok ()
  · have hnames := Path.refuseNul_eq_ok_iff.mp hnul
    rw [ofFile?_eq_match hnul]
    constructor
    · intro h
      cases hcontent : t.content? cwd path with
      | none =>
        simp only [hcontent] at h
        cases h
        exact .unreadable hnames hcontent
      | some bytes =>
        cases htext : Utf8.decode? bytes with
        | none =>
          simp only [hcontent, htext] at h
          cases h
          exact .notText hnames hcontent htext
        | some text =>
          simp only [hcontent, htext] at h
          cases hread : read path text with
          | ok d =>
            rw [hread] at h
            cases h
          | error fault =>
            rw [hread] at h
            cases h
            obtain ⟨inner, hinner, hstands⟩ := read_eq_error_iff.mp hread
            exact .frontmatter hnames hcontent htext hinner hstands
    · intro h
      cases h with
      | nulInPath hname hmem => exact absurd hmem (hnames _ hname)
      | unreadable _ hcontent => simp only [hcontent]
      | notText _ hcontent htext => simp only [hcontent, htext]
      | frontmatter _ hcontent htext hinner hstands =>
        simp only [hcontent, htext, read_eq_error_iff.mpr ⟨_, hinner, hstands⟩]
        rfl
  · rw [ofFile?_of_nul hnul]
    constructor
    · intro h
      cases h
      have hsome : ∃ name ∈ path.names, '\x00' ∈ name := by
        by_contra hnone
        exact hnul (Path.refuseNul_eq_ok_iff.mpr fun name hname hmem => hnone ⟨name, hname, hmem⟩)
      obtain ⟨name, hname, hmem⟩ := hsome
      exact .nulInPath hname hmem
    · intro h
      cases h with
      | nulInPath _ _ => rfl
      | unreadable hnames _ => exact absurd (Path.refuseNul_eq_ok_iff.mpr hnames) hnul
      | notText hnames _ _ => exact absurd (Path.refuseNul_eq_ok_iff.mpr hnames) hnul
      | frontmatter hnames _ _ _ _ => exact absurd (Path.refuseNul_eq_ok_iff.mpr hnames) hnul

/-- A text with a day in its frontmatter that there is not. -/
def noSuchDay : Text := "---\nd: 2020-13-45\n---\n".toList

/-- A file with the text. -/
def noSuchDayTree : FileTree where
  entries := [(["doc.md".toList], .file (Utf8.encode noSuchDay))]

theorem split_noSuchDay :
    (Frontmatter.split (lines noSuchDay)).1 = some ["d: 2020-13-45".toList] :=
  rfl

theorem standsAgainst_noSuchDay :
    Frontmatter.StandsAgainst ["d: 2020-13-45".toList] .noSuchValue := by
  refine Frontmatter.read_eq_error_iff.mp ?_
  decide +kernel

theorem content?_noSuchDay :
    noSuchDayTree.content? (Path.ofText "/".toList) (Path.ofText "doc.md".toList) =
      some (Utf8.encode noSuchDay) :=
  rfl

theorem decode?_noSuchDay : Utf8.decode? (Utf8.encode noSuchDay) = some noSuchDay :=
  Utf8.decode?_encode noSuchDay

end Document

end DocAudit
