import FeatureRunner.Proofs.Path.Bytes
import FeatureRunner.Target.Basic
import Mathlib.Data.List.Range

/-!
This module contains how a path below a source root is named by its place on the class path. The
option of a path tells what is below the last occurrence of a source root (`bytesOption_describes`).
Of the two kinds of source roots the first one is preferred, so the innermost source root counts
unless one of the first kind stands further in front (`pathOption_innermost`).
-/

namespace FeatureRunner
namespace TestTarget

open FeatureRunner.Text
open FeatureRunner.Path (Component)

def javaRoot : List String := ["src", "test", "java"]

def resourcesRoot : List String := ["src", "test", "resources"]

theorem mem_sourceRoots {root : List String}
    : root ∈ sourceRoots ↔ root = javaRoot ∨ root = resourcesRoot := by
  simp [sourceRoots, javaRoot, resourcesRoot]

theorem ne_nil_of_mem_sourceRoots : ∀ root ∈ sourceRoots, root ≠ [] := by
  decide

theorem ascii_of_mem_sourceRoots
    : ∀ root ∈ sourceRoots, ∀ name ∈ root, ∀ c ∈ name.toList, c.toNat < 0x80 := by
  simp [sourceRoots]

theorem length_of_mem_sourceRoots {root : List String} (h : root ∈ sourceRoots)
    : root.length = 3 := by
  rcases mem_sourceRoots.1 h with rfl | rfl <;> rfl

/-! ### The last occurrence -/

/-- Among these names those of `root` stand in a row for the last time behind `front`. -/
structure IsLast (root names front rest : List String) : Prop where
  names_eq : names = front ++ root ++ rest
  last : ∀ front' rest', names = front' ++ root ++ rest' → front'.length ≤ front.length

section Last

variable {root names front rest : List String}

theorem IsLast.unique {front' rest' : List String} (h : IsLast root names front rest)
    (h' : IsLast root names front' rest')
    : front = front' ∧ rest = rest' := by
  have hlength : front.length = front'.length :=
    Nat.le_antisymm (h'.last _ _ h.names_eq) (h.last _ _ h'.names_eq)
  have heq := h.names_eq.symm.trans h'.names_eq
  rw [List.append_assoc, List.append_assoc] at heq
  obtain ⟨rfl, hback⟩ := List.append_inj heq hlength
  exact ⟨rfl, List.append_cancel_left hback⟩

theorem not_infix_of_namesAfterLast? (hroot : root ≠ []) (h : namesAfterLast? root names = none)
    : ¬ root <:+: names := by
  induction names with
  | nil => simpa using hroot
  | cons name names ih =>
    unfold namesAfterLast? at h
    split at h
    . cases h
    . next hlater =>
      rw [List.infix_cons_iff, not_or]
      refine ⟨?_, ih hlater⟩
      rintro ⟨rest, heq⟩
      rw [List.isPrefixOf?_eq_some_iff_append_eq.2 heq] at h
      cases h

theorem exists_isLast_of_namesAfterLast? (hroot : root ≠ [])
    (h : namesAfterLast? root names = some rest)
    : ∃ front, IsLast root names front rest := by
  induction names with
  | nil => cases h
  | cons name names ih =>
    unfold namesAfterLast? at h
    split at h
    . next later hlater =>
      obtain rfl := Option.some.inj h
      obtain ⟨front, hfront⟩ := ih hlater
      refine ⟨name :: front, ?_, ?_⟩
      . rw [hfront.names_eq]
        rfl
      . intro front' rest' heq
        cases front' with
        | nil => exact Nat.zero_le _
        | cons name' front' =>
          exact Nat.succ_le_succ (hfront.last front' rest' (List.cons.inj heq).2)
    . next hlater =>
      -- the root stands in front, and not once more behind the first name
      rw [List.isPrefixOf?_eq_some_iff_append_eq] at h
      refine ⟨[], h.symm, ?_⟩
      intro front' rest' heq
      cases front' with
      | nil => exact Nat.le_refl 0
      | cons name' front' =>
        exact absurd ⟨front', rest', (List.cons.inj heq).2.symm⟩
          (not_infix_of_namesAfterLast? hroot hlater)

theorem isLast_of_namesAfterLast? (hroot : root ≠ []) (h : namesAfterLast? root names = some rest)
    (heq : names = front ++ root ++ rest)
    : IsLast root names front rest := by
  obtain ⟨front', hlast⟩ := exists_isLast_of_namesAfterLast? hroot h
  have hfronts := heq.symm.trans hlast.names_eq
  obtain rfl := List.append_cancel_right (List.append_cancel_right hfronts)
  exact hlast

theorem namesAfterLast?_of_isLast (hroot : root ≠ []) (h : IsLast root names front rest)
    : namesAfterLast? root names = some rest := by
  cases hnames : namesAfterLast? root names with
  | none => exact absurd ⟨front, rest, h.names_eq.symm⟩ (not_infix_of_namesAfterLast? hroot hnames)
  | some rest' =>
    obtain ⟨front', h'⟩ := exists_isLast_of_namesAfterLast? hroot hnames
    rw [(h.unique h').2]

theorem namesAfterLast?_eq_none_iff (hroot : root ≠ [])
    : namesAfterLast? root names = none ↔ ¬ root <:+: names := by
  refine ⟨not_infix_of_namesAfterLast? hroot, fun h => ?_⟩
  cases hnames : namesAfterLast? root names with
  | none => rfl
  | some rest =>
    obtain ⟨front, hlast⟩ := exists_isLast_of_namesAfterLast? hroot hnames
    exact absurd ⟨front, rest, hlast.names_eq.symm⟩ h

theorem IsLast.isStep {path : Path} (h : IsLast root path.names front rest)
    : ∀ name ∈ rest, Path.IsStep name := by
  intro name hname
  have hmem : name ∈ path.names := by
    rw [h.names_eq]
    exact List.mem_append_right _ hname
  exact Path.isStep_of_mem_names hmem

end Last

/-! ### Windows -/

def slice? (names : List String) (start stop : Nat) : Option (List String) :=
  if start ≤ stop ∧ stop ≤ names.length then some ((names.take stop).drop start) else none

def windowStarts (root : List String) (n : Nat) : List Nat :=
  (List.range (n - (root.length - 1))).reverse

/-- The first of these places at which `root` stands. There is no answer at all if a window does
not lie among the names. -/
def firstWindow? (root names : List String) : List Nat → Option (Option Nat)
  | [] => some none
  | start :: starts => do
    let window ← slice? names start (start + root.length)
    if window = root then some (some start) else firstWindow? root names starts

/-- The names behind the first of these source roots that stands among the names, found with
windows from the right. -/
def windowedNames? (names : List String) : List (List String) → Option (Option (List String))
  | [] => some none
  | root :: roots => do
    match ← firstWindow? root names (windowStarts root names.length) with
    | some start => (slice? names (start + root.length) names.length).map some
    | none => windowedNames? names roots

/-- The option of a path, found with windows. -/
def windowedOption? (path : BytePath) : Option String :=
  (windowedNames? path.names sourceRoots).map fun
    | some names => "classpath:" ++ joinStrings '/' names
    | none => path.text

theorem slice?_eq_some {names : List String} {start stop : Nat} (h : start ≤ stop)
    (hstop : stop ≤ names.length)
    : slice? names start stop = some ((names.take stop).drop start) :=
  if_pos ⟨h, hstop⟩

theorem firstWindow?_eq {root names : List String} {starts : List Nat}
    (h : ∀ start ∈ starts, start + root.length ≤ names.length)
    : firstWindow? root names starts
        = some (starts.find? fun start =>
            (names.take (start + root.length)).drop start = root) := by
  induction starts with
  | nil => rfl
  | cons start starts ih =>
    rw [List.forall_mem_cons] at h
    rw [firstWindow?, slice?_eq_some (Nat.le_add_right ..) h.1, List.find?_cons]
    by_cases hwindow : (names.take (start + root.length)).drop start = root
    . simp [hwindow]
    . simp [hwindow, ih h.2]

theorem window_eq_iff {root names : List String} {start : Nat}
    : (names.take (start + root.length)).drop start = root ∧ start + root.length ≤ names.length
        ↔
      ∃ front rest, names = front ++ root ++ rest ∧ front.length = start := by
  constructor
  . rintro ⟨hwindow, hle⟩
    refine ⟨names.take start, names.drop (start + root.length), ?_, ?_⟩
    . calc names
        _ = names.take (start + root.length) ++ names.drop (start + root.length) :=
          (List.take_append_drop _ _).symm
        _ = names.take start ++ root ++ names.drop (start + root.length) := by
          rw [← List.take_append_drop start (names.take (start + root.length)), hwindow,
            List.take_take, Nat.min_eq_left (Nat.le_add_right ..)]
    . exact List.length_take_of_le (Nat.le_trans (Nat.le_add_right ..) hle)
  . rintro ⟨front, rest, rfl, rfl⟩
    rw [← List.length_append, List.take_left, List.drop_left]
    simp

theorem mem_windowStarts {root : List String} (hroot : root ≠ []) {n start : Nat}
    : start ∈ windowStarts root n ↔ start + root.length ≤ n := by
  have hpos := List.length_pos_iff.2 hroot
  rw [windowStarts, List.mem_reverse, List.mem_range]
  omega

theorem pairwise_windowStarts (root : List String) (n : Nat)
    : (windowStarts root n).Pairwise (fun a b => b < a) :=
  List.pairwise_reverse.2 List.pairwise_lt_range

theorem isLast_of_find? {root names : List String} {start : Nat} (hroot : root ≠ [])
    (h : ((windowStarts root names.length).find? fun start =>
      (names.take (start + root.length)).drop start = root) = some start)
    : ∃ front rest, front.length = start ∧ IsLast root names front rest := by
  have hle := (mem_windowStarts hroot).1 (List.mem_of_find?_eq_some h)
  obtain ⟨hwindow, before, after, hsplit, hbefore⟩ := List.find?_eq_some_iff_append.1 h
  obtain ⟨front, rest, heq, rfl⟩ := window_eq_iff.1 ⟨of_decide_eq_true hwindow, hle⟩
  refine ⟨front, rest, rfl, heq, fun front' rest' heq' => ?_⟩
  obtain ⟨hwindow', hle'⟩ := window_eq_iff.2 ⟨front', rest', heq', rfl⟩
  have hmem := (mem_windowStarts hroot).2 hle'
  have hsorted := pairwise_windowStarts root names.length
  rw [hsplit] at hmem hsorted
  rcases List.mem_append.1 hmem with hmem | hmem
  . simpa [hwindow'] using hbefore _ hmem
  . rcases List.mem_cons.1 hmem with hself | hmem
    . exact Nat.le_of_eq hself
    . have hafter := (List.pairwise_append.1 hsorted).2.1
      exact Nat.le_of_lt ((List.pairwise_cons.1 hafter).1 _ hmem)

theorem firstWindow?_windowStarts {root names : List String} (hroot : root ≠ [])
    : (firstWindow? root names (windowStarts root names.length) = some none
        ∧ namesAfterLast? root names = none)
      ∨ ∃ start, firstWindow? root names (windowStarts root names.length) = some (some start)
        ∧ start + root.length ≤ names.length
        ∧ namesAfterLast? root names = some (names.drop (start + root.length)) := by
  have hstarts : ∀ start ∈ windowStarts root names.length, start + root.length ≤ names.length :=
    fun start => (mem_windowStarts hroot).1
  rw [firstWindow?_eq hstarts]
  cases hfind : (windowStarts root names.length).find? fun start =>
      (names.take (start + root.length)).drop start = root with
  | none =>
    refine .inl ⟨rfl, (namesAfterLast?_eq_none_iff hroot).2 ?_⟩
    rintro ⟨front, rest, heq⟩
    obtain ⟨hwindow, hle⟩ := window_eq_iff.2 ⟨front, rest, heq.symm, rfl⟩
    have hnone := List.find?_eq_none.1 hfind front.length ((mem_windowStarts hroot).2 hle)
    simp [hwindow] at hnone
  | some start =>
    obtain ⟨front, rest, rfl, hlast⟩ := isLast_of_find? hroot hfind
    refine .inr ⟨front.length, rfl, hstarts _ (List.mem_of_find?_eq_some hfind), ?_⟩
    rw [namesAfterLast?_of_isLast hroot hlast, hlast.names_eq, ← List.length_append,
      List.drop_left]

theorem windowedNames?_eq (names : List String) {roots : List (List String)}
    (h : ∀ root ∈ roots, root ≠ [])
    : windowedNames? names roots = some (roots.findSome? (namesAfterLast? · names)) := by
  induction roots with
  | nil => rfl
  | cons root roots ih =>
    rw [List.forall_mem_cons] at h
    rw [windowedNames?, List.findSome?_cons]
    rcases firstWindow?_windowStarts h.1 with ⟨hwindow, hnone⟩ | ⟨start, hwindow, hle, hsome⟩
    . rw [hwindow, hnone]
      exact ih h.2
    . rw [hwindow, hsome]
      simp [slice?_eq_some hle (Nat.le_refl _)]

/-- No window reaches beyond the names, and the windows find the last occurrence. -/
theorem windowedOption?_eq (path : BytePath) : windowedOption? path = some (bytesOption path) := by
  rw [windowedOption?, windowedNames?_eq path.names ne_nil_of_mem_sourceRoots]
  unfold bytesOption classpathNames?
  cases sourceRoots.findSome? (namesAfterLast? · path.names) <;> rfl

/-! ### Below a source root -/

/-- The option of a path tells `rel`, what is below the last occurrence of a source root. -/
structure LiesBelow (path : BytePath) (front root : List String) (rel : String) : Prop where
  root_mem : root ∈ sourceRoots
  option_eq : bytesOption path = "classpath:" ++ rel
  isLast : IsLast root path.names front (splitNames rel)

section Bytes

variable {path : BytePath}

theorem bytesOption_of_stands (h : ∃ root ∈ sourceRoots, root <:+: path.names)
    : ∃ front root rel, LiesBelow path front root rel := by
  cases hnames : classpathNames? path.names with
  | none =>
    obtain ⟨root, hroot, hstands⟩ := h
    have hnone := List.findSome?_eq_none_iff.1 hnames root hroot
    have hne := ne_nil_of_mem_sourceRoots root hroot
    exact absurd hstands ((namesAfterLast?_eq_none_iff hne).1 hnone)
  | some below =>
    obtain ⟨root, hroot, hsome⟩ := List.exists_of_findSome?_eq_some hnames
    have hne := ne_nil_of_mem_sourceRoots root hroot
    obtain ⟨front, hlast⟩ := exists_isLast_of_namesAfterLast? hne hsome
    have hsteps : ∀ name ∈ below, Path.IsStep name := by
      rw [← BytePath.names_text] at hlast
      exact hlast.isStep
    refine ⟨front, root, joinStrings '/' below, hroot, by rw [bytesOption, hnames], ?_⟩
    rw [Path.splitNames_joinStrings hsteps]
    exact hlast

theorem bytesOption_of_not_stands (h : ∀ root ∈ sourceRoots, ¬ root <:+: path.names)
    : bytesOption path = path.text := by
  have hnames : classpathNames? path.names = none := by
    rw [classpathNames?, List.findSome?_eq_none_iff]
    intro root hroot
    exact (namesAfterLast?_eq_none_iff (ne_nil_of_mem_sourceRoots root hroot)).2 (h root hroot)
  rw [bytesOption, hnames]

theorem LiesBelow.length_lt {front root : List String} {rel : String}
    (h : LiesBelow path front root rel)
    : (bytesOption path).length < path.text.length := by
  have htext := (Path.mk path.text).length_joinStrings_names_le
  have hrel := Path.joinStrings_splitNames rel
  have hroot : root.length = 3 ∧ 11 ≤ (root.map String.toList).flatten.length := by
    rcases mem_sourceRoots.1 h.root_mem with rfl | rfl <;> decide
  rw [h.option_eq, String.length_append, ← hrel]
  rw [BytePath.names_text, h.isLast.names_eq] at htext
  simp only [joinStrings, String.length_ofList, Path.length_joinWith, List.map_append,
    List.flatten_append, List.length_append, List.length_map] at htext ⊢
  have hscheme : "classpath:".length = 10 := rfl
  omega

/--
The option of a path is found without reaching beyond its names. It is the text of the path where no
source root is passed, and else it tells the names below a source root that is passed. Behind the
same names and the same root no two options are equal, unless steps that are no text are shown
alike.
-/
theorem bytesOption_describes (h : BytePath.parentStep ∉ path.steps)
    : windowedOption? path = some (bytesOption path)
      ∧ (bytesOption path = path.text
          ↔ ∀ root ∈ sourceRoots, ¬ root.map BytePath.nameStep <:+: path.steps)
      ∧ (bytesOption path ≠ path.text → ∃ front root rel, LiesBelow path front root rel)
      ∧ ∀ (other : BytePath) (front root : List String) (rel rel' : String),
          BytePath.parentStep ∉ other.steps → LiesBelow path front root rel →
          LiesBelow other front root rel' → bytesOption path = bytesOption other →
          path.names = other.names
            ∧ ((∀ step ∈ path.steps ++ other.steps, IsUtf8 step) → path.steps = other.steps) := by
  have hstands : ∀ root ∈ sourceRoots, root.map BytePath.nameStep <:+: path.steps
      ↔ root <:+: path.names :=
    fun root hroot => BytePath.infix_steps_iff h (ascii_of_mem_sourceRoots root hroot)
  refine ⟨windowedOption?_eq path, ⟨fun htext root hroot hpass => ?_, fun hnone => ?_⟩, ?_, ?_⟩
  . -- what is below a root is shorter than the whole text, so the option is another text
    obtain ⟨front, root, rel, hbelow⟩ :=
      bytesOption_of_stands ⟨root, hroot, (hstands root hroot).1 hpass⟩
    have hlt := hbelow.length_lt
    rw [htext] at hlt
    exact Nat.lt_irrefl _ hlt
  . refine bytesOption_of_not_stands fun root hroot hpass => ?_
    exact hnone root hroot ((hstands root hroot).2 hpass)
  . intro hne
    apply bytesOption_of_stands
    by_contra hnone
    exact hne (bytesOption_of_not_stands fun root hroot hpass => hnone ⟨root, hroot, hpass⟩)
  . intro other front root rel rel' hother hbelow hbelow' heq
    have hnames : path.names = other.names := by
      rw [hbelow.option_eq, hbelow'.option_eq, String.append_right_inj] at heq
      rw [hbelow.isLast.names_eq, hbelow'.isLast.names_eq, heq]
    refine ⟨hnames, fun htext => ?_⟩
    rw [List.forall_mem_append] at htext
    exact BytePath.steps_eq_of_names_eq h hother htext.1 htext.2 hnames

/-- A feature file in a directory whose name is one byte that is no text. -/
def inBrokenDirectory (b : UInt8) : BytePath :=
  ⟨encode "/p/./src/test/java//".toList ++ b :: encode "/a.feature".toList⟩

theorem bytesOption_describes_inBrokenDirectory
    : BytePath.parentStep ∉ (inBrokenDirectory 0xFF).steps
      ∧ ∃ front root rel, LiesBelow (inBrokenDirectory 0xFF) front root rel := by
  have hparent : BytePath.parentStep ∉ (inBrokenDirectory 0xFF).steps := by decide
  exact ⟨hparent, (bytesOption_describes hparent).2.2.1 (by decide)⟩

/-- Directories whose names are no text are not told apart. -/
theorem bytesOption_inBrokenDirectory_alike
    : ¬ ∀ (path other : BytePath) (front root : List String) (rel rel' : String),
        BytePath.parentStep ∉ path.steps → BytePath.parentStep ∉ other.steps →
        LiesBelow path front root rel → LiesBelow other front root rel' →
        bytesOption path = bytesOption other → path.steps = other.steps := by
  intro hall
  have hbelow {b : UInt8} (hb : b = 0xFF ∨ b = 0xFE)
      : LiesBelow (inBrokenDirectory b) ["p"] javaRoot "\uFFFD/a.feature" := by
    refine ⟨by decide, by rcases hb with rfl | rfl <;> decide, ?_⟩
    apply isLast_of_namesAfterLast? <;> rcases hb with rfl | rfl <;> decide
  have hsteps := hall (inBrokenDirectory 0xFF) (inBrokenDirectory 0xFE) _ _ _ _ (by decide)
    (by decide) (hbelow (.inl rfl)) (hbelow (.inr rfl)) (by decide)
  revert hsteps
  decide

end Bytes

/-! ### The innermost source root -/

theorem pathOption_of_some {path : Path} {names : List String}
    (h : classpathNames? path.names = some names)
    : pathOption path = "classpath:" ++ joinStrings '/' names := by
  rw [pathOption, bytesOption, BytePath.names_ofPath, h]

theorem pathOption_of_none {path : Path} (h : classpathNames? path.names = none)
    : pathOption path = path.text := by
  rw [pathOption, bytesOption, BytePath.names_ofPath, h]
  exact BytePath.text_ofPath path

/-- The steps of `root`, one of these roots, stand on the path behind `front`. -/
structure Passes (roots : List (List String)) (path : Path) (front : List Component)
    (root below : List String) : Prop where
  mem : root ∈ roots
  components_eq : path.components = front ++ (root ++ below).map .name

/-- Behind `front` the path passes one of these roots for the last time. -/
structure Innermost (roots : List (List String)) (path : Path) (front : List Component)
    (root below : List String) : Prop extends Passes roots path front root below where
  last : ∀ {front' root' below'}, Passes roots path front' root' below' →
    front'.length ≤ front.length

section Innermost

variable {roots : List (List String)} {path : Path} {front : List Component}
variable {root below : List String}

theorem Passes.length_le (h : Passes roots path front root below)
    : front.length ≤ path.components.length := by
  rw [h.components_eq, List.length_append]
  exact Nat.le_add_right _ _

theorem Passes.exists_innermost {front : List Component} {root below : List String}
    (h : Passes roots path front root below)
    : ∃ front root below, Innermost roots path front root below := by
  by_cases hlast : ∃ front' root' below', Passes roots path front' root' below'
      ∧ front.length < front'.length
  . obtain ⟨front', root', below', h', hlt⟩ := hlast
    have hle := h'.length_le
    exact h'.exists_innermost
  . refine ⟨front, root, below, h, fun {front' root' below'} h' => ?_⟩
    by_contra hlt
    exact hlast ⟨front', root', below', h', Nat.lt_of_not_le hlt⟩
termination_by path.components.length - front.length

theorem Passes.innermost (h : Passes roots path front root below) (first : String)
    (hroots : ∀ root ∈ roots, root.head? = some first) (hbelow : first ∉ (root ++ below).tail)
    : Innermost roots path front root below := by
  refine ⟨h, fun {front' root' below'} h' => ?_⟩
  by_contra hlt
  have heq := h.components_eq.symm.trans h'.components_eq
  rw [List.append_eq_append_iff] at heq
  rcases heq with ⟨middle, rfl, hmiddle⟩ | ⟨middle, rfl, -⟩
  . cases middle with
    | nil => simp at hlt
    | cons step middle =>
      have htail := congrArg List.tail hmiddle
      rw [← List.map_tail, List.cons_append, List.tail_cons] at htail
      have hmem : first ∈ root' := List.mem_of_head? (hroots root' h'.mem)
      have hname : Component.name first ∈ (root ++ below).tail.map Component.name := by
        rw [htail]
        simp [hmem]
      obtain ⟨name, hname, heq⟩ := List.mem_map.1 hname
      cases heq
      exact hbelow hname
  . simp at hlt

theorem Innermost.isLast (hparent : .parent ∉ path.components)
    (h : Innermost roots path front root below)
    : ∃ before, IsLast root path.names before below := by
  obtain ⟨before, hnames, hfront⟩ := (Path.components_eq_append_iff hparent).1 h.components_eq
  rw [← List.append_assoc] at hnames
  refine ⟨before, hnames, fun front' rest' heq => ?_⟩
  have hpasses : Passes roots path (path.anchor.components ++ front'.map .name) root rest' := by
    refine ⟨h.mem, (Path.components_eq_append_iff hparent).2 ⟨front', ?_, rfl⟩⟩
    rw [heq, List.append_assoc]
  have hle := h.last hpasses
  rw [hfront] at hle
  simpa using hle

theorem pathOption_of_java (hparent : .parent ∉ path.components)
    (h : Innermost [javaRoot] path front javaRoot below)
    : pathOption path = "classpath:" ++ joinStrings '/' below := by
  obtain ⟨before, hlast⟩ := h.isLast hparent
  have hnames : classpathNames? path.names = some below := by
    rw [classpathNames?, sourceRoots, List.findSome?_cons, ← javaRoot,
      namesAfterLast?_of_isLast (by decide) hlast]
  exact pathOption_of_some hnames

theorem pathOption_of_resources (hparent : .parent ∉ path.components)
    (hjava : ¬ ∃ front' below', Passes [javaRoot] path front' javaRoot below')
    (h : Innermost sourceRoots path front resourcesRoot below)
    : pathOption path = "classpath:" ++ joinStrings '/' below := by
  obtain ⟨before, hlast⟩ := h.isLast hparent
  have hnone : namesAfterLast? javaRoot path.names = none := by
    rw [namesAfterLast?_eq_none_iff (by decide)]
    rintro ⟨before', below', heq⟩
    refine hjava ⟨_, below', List.mem_singleton_self _, (Path.components_eq_append_iff hparent).2
      ⟨before', ?_, rfl⟩⟩
    rw [← heq, List.append_assoc]
  have hnames : classpathNames? path.names = some below := by
    rw [classpathNames?, sourceRoots, List.findSome?_cons, ← javaRoot, hnone, List.findSome?_cons,
      ← resourcesRoot, namesAfterLast?_of_isLast (by decide) hlast]
  exact pathOption_of_some hnames

/--
The option of a path tells what is below the innermost source root if that is one of the first kind
or none of the first kind is passed, and only then. Where one of the first kind is passed, the last
one of them counts.
-/
theorem pathOption_innermost (hparent : .parent ∉ path.components)
    (h : Passes sourceRoots path front root below)
    : (∃ front root below, Innermost sourceRoots path front root below)
      ∧ (∀ front root below, Innermost sourceRoots path front root below →
          (pathOption path = "classpath:" ++ joinStrings '/' below
            ↔ root = javaRoot ∨ ¬ ∃ front' below', Passes [javaRoot] path front' javaRoot below'))
      ∧ ∀ front below, Innermost [javaRoot] path front javaRoot below →
          pathOption path = "classpath:" ++ joinStrings '/' below := by
  refine ⟨h.exists_innermost, fun front root below h => ⟨fun hoption => ?_, fun hcase => ?_⟩,
    fun front below => pathOption_of_java hparent⟩
  . by_contra hcase
    rw [not_or, not_not] at hcase
    obtain ⟨hroot, _, _, hpasses⟩ := hcase
    obtain ⟨front', root', below', hinner⟩ := hpasses.exists_innermost
    obtain rfl : root' = javaRoot := List.mem_singleton.1 hinner.mem
    obtain ⟨before, hlast⟩ := h.isLast hparent
    obtain ⟨before', hlast'⟩ := hinner.isLast hparent
    rw [pathOption_of_java hparent hinner, String.append_right_inj] at hoption
    obtain rfl : below' = below := Path.joinStrings_inj hlast'.isStep hlast.isStep hoption
    -- in front of the same names there are the same roots
    have hroots : before ++ root = before' ++ javaRoot :=
      List.append_cancel_right (hlast.names_eq.symm.trans hlast'.names_eq)
    exact hroot (List.append_inj_right' hroots (length_of_mem_sourceRoots h.mem))
  . rcases mem_sourceRoots.1 h.mem with rfl | rfl
    . refine pathOption_of_java hparent ⟨⟨List.mem_singleton_self _, h.components_eq⟩, ?_⟩
      intro front' root' below' h'
      refine h.last ⟨?_, h'.components_eq⟩
      exact mem_sourceRoots.2 (.inl (List.mem_singleton.1 h'.mem))
    . exact pathOption_of_resources hparent (hcase.resolve_left (by decide)) h

end Innermost

/-- Resources of a module that lies among the sources of another one. -/
def nestedResources : Path :=
  ⟨"/w/src/test/java/m/src/test/resources/a.feature"⟩

theorem passes_nestedResources
    : Passes sourceRoots nestedResources
        (.root :: ["w", "src", "test", "java", "m"].map .name) resourcesRoot ["a.feature"] :=
  ⟨by decide, by decide⟩

theorem pathOption_innermost_nestedResources
    : .parent ∉ nestedResources.components
      ∧ ∃ front root below, Innermost sourceRoots nestedResources front root below := by
  have hparent : .parent ∉ nestedResources.components := by decide
  exact ⟨hparent, (pathOption_innermost hparent passes_nestedResources).1⟩

/-- The innermost source root is missed here. -/
theorem pathOption_ne_nestedResources
    : ¬ ∀ (path : Path) (front : List Component) (root below : List String),
        .parent ∉ path.components → Innermost sourceRoots path front root below →
        pathOption path = "classpath:" ++ joinStrings '/' below := by
  intro hall
  have hinner := passes_nestedResources.innermost "src" (by decide) (by decide)
  have hoption := hall nestedResources _ _ _ (by decide) hinner
  revert hoption
  decide

end TestTarget
end FeatureRunner
