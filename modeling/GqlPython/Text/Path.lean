import GqlPython.Text.Str

/-! # `os.path.abspath` and `gql.abspath`

    `GQL.copy_tsv` and `GQL.copy_file` pass their paths through `abspath`,
    which leaves an `s3:` path alone and gives any other path to
    `os.path.abspath`: joined onto the working directory when relative, then
    `posixpath.normpath`. `normpath` splits the path at `/` and runs a stack
    over the components: `''` and `'.'` are dropped, `'..'` pops the last
    name, or is kept where nothing can be popped in a relative path; one or
    two leading slashes are kept, three or more become one.

    What the stack holds is plain names on a run of `..`, and no `..` at all
    under a leading slash (`StackShape`, kept by every turn of the loop,
    `stackShape_foldl`). Normalising such a path again walks the same stack
    back (`foldl_normStep_normal`), so `normpath` is idempotent
    (`normpath_normpath`), and with it `abspath` (`abspath_idempotent`); a
    local path made absolute starts with `/` and has no `.` or `..` component
    (`abspath_components`). Read against what a path names without symbolic
    links (`walk`), `abspath` changes only the spelling: it names what the
    path names from the working directory (`abspath_walk`).

    `posixpath.splitext`, which the tidy format asks to give `.tsv`, gives it
    exactly when the last component is a stem with a character other than `.`
    followed by `.tsv` (`splitext_eq_tsv_iff`): `.tsv` or `..tsv` alone has
    no extension.
-/

namespace GqlPython

/-! ### `posixpath.normpath` -/

/-- One turn of the loop of `normpath` over the components, on `new_comps`
    kept reversed (its last element first); `rooted` is `initial_slashes`. -/
def normStep (rooted : Bool) (acc : List String) (comp : String) : List String :=
  if comp = "" ∨ comp = "." then acc
  else if comp ≠ ".." ∨ (rooted = false ∧ acc = []) ∨ acc.head? = some ".." then comp :: acc
  else acc.tail

/-- `initial_slashes`: one, or two when the path starts with exactly two. -/
def initialSlashes (path : String) : Nat :=
  if startsWith path "/" then
    if startsWith path "//" && !startsWith path "///" then 2 else 1
  else 0

/-- `sep * initial_slashes + sep.join(new_comps)`, before `or dot`. -/
def normJoin (slashes : Nat) (comps : List String) : String :=
  ⟨List.replicate slashes '/'⟩ ++ pyJoin "/" comps

/-- `posixpath.normpath(path)`. -/
def normpath (path : String) : String :=
  if path = "" then "." else
  let slashes := initialSlashes path
  let out := normJoin slashes ((pySplit path '/').foldl (normStep (slashes != 0)) []).reverse
  if out = "" then "." else out

/-- `posixpath.abspath(path)`, with `os.getcwd()` = `cwd`. -/
def osAbspath (cwd path : String) : String :=
  normpath (if startsWith path "/" then path else pathJoin cwd path)

/-- `abspath(path)` of `gql.py`: a path starting with `s3:` is kept as it is. -/
def abspath (cwd path : String) : String :=
  if startsWith path "s3:" then path else osAbspath cwd path

example : abspath "/home/u" "a/./b/../../../c//d" = "/home/c/d" := by decide
example : normpath "../x/../../y" = "../../y" ∧ normpath "///a//b/" = "/a/b" ∧
    normpath "//a/.." = "//" := by decide

/-! ### The loop keeps the stack in shape -/

/-- A component the loop pushes: not empty, not `.`, and without `/`. -/
def Kept (c : String) : Prop := c ≠ "" ∧ c ≠ "." ∧ '/' ∉ c.data

/-- The stack of `normpath`, last element first: plain names on a run of
    `..`, and no `..` under a leading slash. -/
def StackShape (rooted : Bool) (acc : List String) : Prop :=
  (∀ c ∈ acc, Kept c) ∧
    ∃ R k, acc = R ++ List.replicate k ".." ∧ ".." ∉ R ∧ (rooted = true → k = 0)

theorem stackShape_nil (rooted : Bool) : StackShape rooted [] :=
  ⟨fun _ h => (List.not_mem_nil _ h).elim, [], 0, rfl, List.not_mem_nil _, fun _ => rfl⟩

/-- A `..` lands on a stack that is all `..`, and never under a leading slash. -/
theorem StackShape.push_dotdot {rooted : Bool} {acc : List String} (hs : StackShape rooted acc)
    (h : (rooted = false ∧ acc = []) ∨ acc.head? = some "..") :
    StackShape rooted (".." :: acc) := by
  obtain ⟨hk, R, k, rfl, hR, hz⟩ := hs
  have hR0 : R = [] := by
    rcases h with ⟨_, h⟩ | h
    · exact (List.append_eq_nil.1 h).1
    · cases R with
      | nil => rfl
      | cons x R => cases h; exact absurd (List.mem_cons_self _ _) hR
  subst hR0
  have hroot : rooted = false := by
    rcases h with ⟨h, _⟩ | h
    · exact h
    · cases rooted
      · rfl
      · simp [hz rfl] at h
  refine ⟨?_, [], k + 1, rfl, List.not_mem_nil _, fun h => absurd (hroot ▸ h) (by decide)⟩
  rintro c (_ | ⟨_, hc⟩)
  · exact ⟨by decide, by decide, by decide⟩
  · exact hk c hc

/-- **One turn of the loop keeps the shape**, for a component without `/`. -/
theorem StackShape.normStep {rooted : Bool} {acc : List String} (hs : StackShape rooted acc)
    {comp : String} (hc : '/' ∉ comp.data) : StackShape rooted (normStep rooted acc comp) := by
  unfold GqlPython.normStep
  split
  · exact hs
  · next h1 =>
    rw [not_or] at h1
    split
    · next h2 =>
      by_cases hd : comp = ".."
      · subst hd
        exact hs.push_dotdot (h2.resolve_left (not_not.2 rfl))
      · obtain ⟨hk, R, k, rfl, hR, hz⟩ := hs
        refine ⟨?_, comp :: R, k, rfl, ?_, hz⟩
        · rintro c (_ | ⟨_, hc'⟩)
          · exact ⟨h1.1, h1.2, hc⟩
          · exact hk c hc'
        · rintro (_ | ⟨_, h⟩)
          · exact hd rfl
          · exact hR h
    · obtain ⟨hk, R, k, rfl, hR, hz⟩ := hs
      refine ⟨fun c h => hk c (List.mem_of_mem_tail h), ?_⟩
      cases R with
      | cons x R =>
        exact ⟨R, k, rfl, fun h => hR (List.mem_cons_of_mem _ h), hz⟩
      | nil =>
        refine ⟨[], k - 1, ?_, List.not_mem_nil _, fun h => by simp [hz h]⟩
        cases k <;> rfl

/-- **The whole loop keeps the shape.** -/
theorem stackShape_foldl {rooted : Bool} :
    ∀ {acc : List String} {comps : List String}, StackShape rooted acc →
      (∀ c ∈ comps, '/' ∉ c.data) → StackShape rooted (comps.foldl (normStep rooted) acc)
  | _, [], hs, _ => hs
  | _, c :: cs, hs, h => by
    rw [List.foldl_cons]
    exact stackShape_foldl (hs.normStep (h c (List.mem_cons_self _ _)))
      fun c' hc' => h c' (List.mem_cons_of_mem _ hc')

/-- No part of a split holds the separator. -/
theorem not_mem_splitSep (sep : Char) :
    ∀ (acc cs : List Char), sep ∉ acc → ∀ c ∈ splitSep sep acc cs, sep ∉ c.data
  | acc, [], h, c, hc => by
    rw [splitSep, List.mem_singleton] at hc
    subst hc
    simpa using h
  | acc, d :: cs, h, c, hc => by
    rw [splitSep] at hc
    split at hc
    · rcases List.mem_cons.1 hc with rfl | hc
      · simpa using h
      · exact not_mem_splitSep sep [] cs (List.not_mem_nil _) c hc
    · next hd =>
      exact not_mem_splitSep sep (d :: acc) cs
        (by rw [List.mem_cons, not_or]; exact ⟨Ne.symm hd, h⟩) c hc

/-! ### Normalising a normal path again -/

/-- A run of `..` on a relative path is pushed as it is. -/
theorem foldl_normStep_dotdot (j : Nat) : ∀ k : Nat,
    (List.replicate k "..").foldl (normStep false) (List.replicate j "..") =
      List.replicate (j + k) ".."
  | 0 => rfl
  | k + 1 => by
    have hpush : normStep false (List.replicate j "..") ".." = List.replicate (j + 1) ".." := by
      rw [normStep, if_neg (by decide), if_pos]
      · rfl
      · cases j
        · exact .inr (.inl ⟨rfl, rfl⟩)
        · exact .inr (.inr rfl)
    rw [List.replicate_succ, List.foldl_cons, hpush, foldl_normStep_dotdot (j + 1) k]
    congr 1
    omega

/-- Plain names are pushed as they are. -/
theorem foldl_normStep_names (rooted : Bool) :
    ∀ {R : List String} (acc : List String), (∀ c ∈ R, Kept c ∧ c ≠ "..") →
      R.foldl (normStep rooted) acc = R.reverse ++ acc
  | [], _, _ => rfl
  | c :: R, acc, h => by
    obtain ⟨⟨h1, h2, -⟩, h3⟩ := h c (List.mem_cons_self _ _)
    rw [List.foldl_cons, normStep, if_neg (by rw [not_or]; exact ⟨h1, h2⟩), if_pos (.inl h3),
      foldl_normStep_names rooted _ fun c' hc' => h c' (List.mem_cons_of_mem _ hc')]
    simp

/-- **The loop walks a stack in shape back.** Its components in order give
    the same stack again. -/
theorem foldl_normStep_normal {rooted : Bool} {acc : List String} (hs : StackShape rooted acc) :
    acc.reverse.foldl (normStep rooted) [] = acc := by
  obtain ⟨hk, R, k, rfl, hR, hz⟩ := hs
  have hnames : ∀ c ∈ R.reverse, Kept c ∧ c ≠ ".." := fun c hc =>
    ⟨hk c (List.mem_append_left _ (List.mem_reverse.1 hc)),
      fun e => hR (e ▸ List.mem_reverse.1 hc)⟩
  have hdots : (List.replicate k "..").foldl (normStep rooted) [] = List.replicate k ".." := by
    cases rooted
    · simpa using foldl_normStep_dotdot 0 k
    · rw [hz rfl]; rfl
  rw [List.reverse_append, List.reverse_replicate, List.foldl_append, hdots,
    foldl_normStep_names rooted _ hnames, List.reverse_reverse]

/-! ### Splitting the output again -/

theorem splitSep_replicate (sep : Char) (cs : List Char) : ∀ s : Nat,
    splitSep sep [] (List.replicate s sep ++ cs) = List.replicate s "" ++ splitSep sep [] cs
  | 0 => rfl
  | s + 1 => by
    rw [List.replicate_succ, List.cons_append, splitSep, if_pos rfl, splitSep_replicate sep cs s]
    rfl

/-- Splitting a join of parts without the separator gives the parts back. -/
theorem splitSep_pyJoin {C : List String} (hC : ∀ c ∈ C, '/' ∉ c.data) (hne : C ≠ []) :
    splitSep '/' [] (pyJoin "/" C).data = C := by
  induction C with
  | nil => exact absurd rfl hne
  | cons c C ih =>
    cases C with
    | nil => simp [pyJoin, splitSep_of_not_mem _ _ _ (hC c (List.mem_cons_self _ _))]
    | cons d C =>
      rw [pyJoin_cons_cons, String.data_append, String.data_append,
        show "/".data = ['/'] from rfl, List.append_assoc, List.singleton_append,
        splitSep_append_sep, splitSep_of_not_mem _ _ _ (hC c (List.mem_cons_self _ _)),
        ih (fun c' hc' => hC c' (List.mem_cons_of_mem _ hc')) (List.cons_ne_nil _ _)]
      rfl

/-- The components of a join of a stack in shape: the empty parts of the
    leading slashes, then the stack in order. -/
theorem pySplit_normJoin {rooted : Bool} {acc : List String} (hs : StackShape rooted acc)
    (s : Nat) :
    pySplit (normJoin s acc.reverse) '/' =
      List.replicate s "" ++ if acc = [] then [""] else acc.reverse := by
  rw [pySplit, normJoin, String.data_append, splitSep_replicate]
  split
  · next h => subst h; rfl
  · next h =>
    rw [splitSep_pyJoin (fun c hc => (hs.1 c (List.mem_reverse.1 hc)).2.2)
      (by simpa using h)]

theorem foldl_normStep_empty (rooted : Bool) (acc : List String) : ∀ s : Nat,
    (List.replicate s "").foldl (normStep rooted) acc = acc
  | 0 => rfl
  | s + 1 => by
    rw [List.replicate_succ, List.foldl_cons, normStep, if_pos (.inl rfl), foldl_normStep_empty rooted acc s]

/-- The loop over the components of a join of a stack in shape gives the stack. -/
theorem foldl_pySplit_normJoin {rooted : Bool} {acc : List String} (hs : StackShape rooted acc)
    (s : Nat) : (pySplit (normJoin s acc.reverse) '/').foldl (normStep rooted) [] = acc := by
  rw [pySplit_normJoin hs, List.foldl_append, foldl_normStep_empty]
  split
  · next h => subst h; rfl
  · exact foldl_normStep_normal hs

theorem head_pyJoin_ne_slash {C : List String} (hk : ∀ c ∈ C, Kept c) :
    (pyJoin "/" C).data.head? ≠ some '/' := by
  cases C with
  | nil => simp [pyJoin]
  | cons c C =>
    obtain ⟨h1, -, h3⟩ := hk c (List.mem_cons_self _ _)
    have hd : c.data ≠ [] := fun e => h1 (String.ext e)
    obtain ⟨x, xs, hx⟩ := List.exists_cons_of_ne_nil hd
    have hxs : x ≠ '/' := fun e => h3 (hx ▸ e ▸ List.mem_cons_self _ _)
    cases C <;> simp [pyJoin, hx, hxs]

/-- `initial_slashes` of a join whose first part does not start with `/`. -/
theorem initialSlashes_normJoin {s : Nat} (hs : s ≤ 2) {C : List String} (hk : ∀ c ∈ C, Kept c)
    (hne : normJoin s C ≠ "") : initialSlashes (normJoin s C) = s := by
  have hJ := head_pyJoin_ne_slash hk
  unfold normJoin at hne ⊢
  generalize pyJoin "/" C = J at hJ hne ⊢
  obtain ⟨J⟩ := J
  match s, J with
  | 0, [] => exact absurd rfl hne
  | 0, c :: J | 1, c :: J | 2, c :: J =>
    simp only [List.head?_cons, ne_eq, Option.some.injEq] at hJ
    simp [initialSlashes, startsWith, List.isPrefixOf, Ne.symm hJ]
  | 1, [] | 2, [] => rfl

theorem initialSlashes_le (p : String) : initialSlashes p ≤ 2 := by
  unfold initialSlashes
  split
  · split <;> omega
  · omega

/-- **`normpath` of a normal path is the path itself.** -/
theorem normpath_normJoin {s : Nat} (hs2 : s ≤ 2) {acc : List String}
    (hs : StackShape (s != 0) acc) (hne : normJoin s acc.reverse ≠ "") :
    normpath (normJoin s acc.reverse) = normJoin s acc.reverse := by
  have hslash := initialSlashes_normJoin hs2 (fun c hc => hs.1 c (List.mem_reverse.1 hc)) hne
  rw [normpath, if_neg hne]
  dsimp only
  rw [hslash, foldl_pySplit_normJoin hs, if_neg hne]

/-! ### `normpath` and `abspath` -/

theorem normpath_of_ne {p : String} (hp : p ≠ "") :
    normpath p = if normJoin (initialSlashes p) ((pySplit p '/').foldl
        (normStep (initialSlashes p != 0)) []).reverse = "" then "."
      else normJoin (initialSlashes p) ((pySplit p '/').foldl
        (normStep (initialSlashes p != 0)) []).reverse := by
  rw [normpath, if_neg hp]

/-- The stack `normpath` builds is in shape. -/
theorem stackShape_normpath (p : String) :
    StackShape (initialSlashes p != 0) ((pySplit p '/').foldl (normStep (initialSlashes p != 0)) []) :=
  stackShape_foldl (stackShape_nil _) (not_mem_splitSep '/' [] p.data (List.not_mem_nil _))

/-- **`normpath` is idempotent.** -/
theorem normpath_normpath (p : String) : normpath (normpath p) = normpath p := by
  by_cases hp : p = ""
  · subst hp; rfl
  rw [normpath_of_ne hp]
  split
  · rfl
  · next hne => exact normpath_normJoin (initialSlashes_le p) (stackShape_normpath p) hne

theorem startsWith_slash_iff (p : String) : startsWith p "/" = true ↔ p.data.head? = some '/' := by
  cases h : p.data with
  | nil => simp [startsWith, h]
  | cons c cs => simp [startsWith, h, List.isPrefixOf]; exact eq_comm

theorem initialSlashes_ne_zero {p : String} (hp : p.data.head? = some '/') : initialSlashes p ≠ 0 := by
  rw [initialSlashes, if_pos ((startsWith_slash_iff p).2 hp)]
  split <;> simp

/-- `normpath` of an absolute path joins a stack without `..` after its
    leading slashes. -/
theorem normpath_abs {p : String} (hp : p.data.head? = some '/') :
    ∃ k acc, normpath p = normJoin (k + 1) acc.reverse ∧ StackShape true acc ∧
      acc = (pySplit p '/').foldl (normStep true) [] := by
  obtain ⟨k, hk⟩ := Nat.exists_eq_succ_of_ne_zero (initialSlashes_ne_zero hp)
  have hshape := stackShape_normpath p
  rw [hk] at hshape
  refine ⟨k, _, ?_, hshape, rfl⟩
  rw [normpath_of_ne fun e => by simp [e] at hp, hk,
    if_neg fun e => by simpa [normJoin] using congrArg String.data e]

/-- `normpath` keeps a leading slash. -/
theorem normpath_head {p : String} (hp : p.data.head? = some '/') :
    (normpath p).data.head? = some '/' := by
  obtain ⟨k, acc, he, -, -⟩ := normpath_abs hp
  simp [he, normJoin, List.replicate_succ]

/-- `os.path.abspath` with an absolute working directory gives an absolute path. -/
theorem osAbspath_head {cwd : String} (hcwd : cwd.data.head? = some '/') (p : String) :
    (osAbspath cwd p).data.head? = some '/' := by
  unfold osAbspath
  split
  · next h => exact normpath_head ((startsWith_slash_iff p).1 h)
  · exact normpath_head (pathJoin_head hcwd)

/-- **`abspath` is idempotent**, for the absolute working directory
    `os.getcwd()` returns: a path it has made absolute is kept as it is. -/
theorem abspath_idempotent {cwd : String} (hcwd : cwd.data.head? = some '/') (p : String) :
    abspath cwd (abspath cwd p) = abspath cwd p := by
  unfold abspath
  by_cases h3 : startsWith p "s3:" = true
  · simp only [h3, if_true]
  · have habs := osAbspath_head hcwd p
    rw [if_neg h3, if_neg (by
      rw [startsWith_eq_false_of_head habs (show "s3:".data.head? = some 's' from rfl) (by decide)]
      decide),
      osAbspath, if_pos ((startsWith_slash_iff _).2 habs), osAbspath, normpath_normpath]

theorem abspath_idempotent_cwd :
    "/home/u".data.head? = some '/' ∧
      abspath "/home/u" (abspath "/home/u" "../x/./y") = abspath "/home/u" "../x/./y" :=
  ⟨rfl, abspath_idempotent (show "/home/u".data.head? = some '/' from rfl) _⟩

/-- **A local path made absolute is normal.** With an absolute working
    directory, `abspath` of a path that does not start with `s3:` starts with
    `/`, and none of its components is `.` or `..`. -/
theorem abspath_components {cwd : String} (hcwd : cwd.data.head? = some '/') {p : String}
    (hp : startsWith p "s3:" = false) :
    (abspath cwd p).data.head? = some '/' ∧ ∀ c ∈ pySplit (abspath cwd p) '/', c ≠ "." ∧ c ≠ ".." := by
  have habs := osAbspath_head hcwd p
  rw [abspath, if_neg (by simp [hp])]
  refine ⟨habs, ?_⟩
  have hx : (if startsWith p "/" then p else pathJoin cwd p).data.head? = some '/' := by
    split
    · next h => exact (startsWith_slash_iff p).1 h
    · exact pathJoin_head hcwd
  obtain ⟨k, acc, he, hs, -⟩ := normpath_abs hx
  rw [osAbspath, he, pySplit_normJoin hs]
  obtain ⟨hk, R, n, rfl, hR, hz⟩ := hs
  intro c hc
  rcases List.mem_append.1 hc with hc | hc
  · rw [List.eq_of_mem_replicate hc]; decide
  · split at hc
    · rw [List.mem_singleton.1 hc]; decide
    · have hc' := List.mem_reverse.1 hc
      refine ⟨(hk c hc').2.1, fun e => ?_⟩
      rw [hz rfl, List.replicate_zero, List.append_nil] at hc'
      exact hR (e ▸ hc')

theorem abspath_components_relative :
    "/home/u".data.head? = some '/' ∧ startsWith "../x/./y" "s3:" = false ∧
      ((abspath "/home/u" "../x/./y").data.head? = some '/' ∧
        ∀ c ∈ pySplit (abspath "/home/u" "../x/./y") '/', c ≠ "." ∧ c ≠ "..") :=
  ⟨rfl, by decide, abspath_components (show "/home/u".data.head? = some '/' from rfl) (by decide)⟩

/-! ### What a path names

    Without symbolic links, an absolute path names what walking its
    components from the root reaches: a name goes down, `..` goes up (the root
    is its own parent), `.` and empty components stay. `normpath` changes only
    the spelling of an absolute path: on a stack in shape under a leading
    slash its loop is that walk (`foldl_normStep_true`), so `abspath` names
    what the path names from the working directory (`abspath_walk`). -/

/-- One component of the walk; the directory is kept last entry first. -/
def walkStep (dir : List String) (comp : String) : List String :=
  if comp = "" ∨ comp = "." then dir else if comp = ".." then dir.tail else comp :: dir

/-- The entries an absolute path leads to from the root, last first. -/
def walk (p : String) : List String := (pySplit p '/').foldl walkStep []

/-- Under a leading slash the loop of `normpath` is the walk. -/
theorem normStep_true_eq {acc : List String} (hs : StackShape true acc) (comp : String) :
    normStep true acc comp = walkStep acc comp := by
  obtain ⟨-, R, k, rfl, hR, hz⟩ := hs
  rw [hz rfl, List.replicate_zero, List.append_nil]
  unfold normStep walkStep
  split
  · rfl
  · by_cases hd : comp = ".."
    · have hhead : R.head? ≠ some ".." := fun h => hR (List.mem_of_mem_head? h)
      rw [if_neg (by simp [hd, hhead]), if_pos hd]
    · rw [if_pos (.inl hd), if_neg hd]

theorem foldl_normStep_true :
    ∀ {acc : List String} {comps : List String}, StackShape true acc →
      (∀ c ∈ comps, '/' ∉ c.data) → comps.foldl (normStep true) acc = comps.foldl walkStep acc
  | _, [], _, _ => rfl
  | _, c :: cs, hs, h => by
    rw [List.foldl_cons, List.foldl_cons, ← normStep_true_eq hs]
    exact foldl_normStep_true (hs.normStep (h c (List.mem_cons_self _ _)))
      fun c' hc' => h c' (List.mem_cons_of_mem _ hc')

/-- The loop of `normpath` under a leading slash walks any path. -/
theorem foldl_normStep_walk (x : String) : (pySplit x '/').foldl (normStep true) [] = walk x :=
  foldl_normStep_true (stackShape_nil true) (not_mem_splitSep '/' [] x.data (List.not_mem_nil _))

/-- **`normpath` keeps what an absolute path names.** -/
theorem walk_normpath {p : String} (hp : p.data.head? = some '/') : walk (normpath p) = walk p := by
  obtain ⟨k, acc, he, hs, hacc⟩ := normpath_abs hp
  rw [he, ← foldl_normStep_walk, foldl_pySplit_normJoin hs, hacc, foldl_normStep_walk]

/-- The walk of a path joined onto a directory goes on from the directory's. -/
theorem walk_pathJoin {cwd p : String} (hcwd : cwd ≠ "") (hp : startsWith p "/" = false) :
    walk (pathJoin cwd p) = (pySplit p '/').foldl walkStep (walk cwd) := by
  unfold pathJoin
  rw [if_neg (by simp [hp])]
  split
  · next h =>
    obtain ⟨c, hc⟩ : ∃ c, cwd.data = c ++ ['/'] := by
      have h' : endsWith cwd "/" = true := by simpa [hcwd] using h
      obtain ⟨c, hc⟩ := List.isSuffixOf_iff_suffix.1 h'
      exact ⟨c, hc.symm⟩
    simp only [walk, pySplit, String.data_append, hc, List.append_assoc, List.singleton_append,
      splitSep_append_sep, List.foldl_append]
    rfl
  · simp only [walk, pySplit, String.data_append, List.append_assoc]
    rw [List.singleton_append, splitSep_append_sep, List.foldl_append]

/-- **`abspath` names the file the path names from the working directory.**
    For an absolute working directory and a path not starting with `s3:`, the
    walk of `abspath(p)` is the walk of `p` when `p` is absolute, and otherwise
    the walk of `p` from the working directory. -/
theorem abspath_walk {cwd : String} (hcwd : cwd.data.head? = some '/') {p : String}
    (hp : startsWith p "s3:" = false) :
    walk (abspath cwd p) =
      if startsWith p "/" then walk p else (pySplit p '/').foldl walkStep (walk cwd) := by
  rw [abspath, if_neg (by simp [hp]), osAbspath]
  split
  · next h => exact walk_normpath ((startsWith_slash_iff p).1 h)
  · next h =>
    rw [walk_normpath (pathJoin_head hcwd), walk_pathJoin (fun e => by simp [e] at hcwd)
      (by simpa using h)]

theorem abspath_walk_relative :
    "/home/u".data.head? = some '/' ∧ startsWith "../x/./y" "s3:" = false ∧
      walk (abspath "/home/u" "../x/./y") = (pySplit "../x/./y" '/').foldl walkStep (walk "/home/u") :=
  ⟨rfl, by decide, abspath_walk (show "/home/u".data.head? = some '/' from rfl) (by decide)⟩

/-! ### `posixpath.splitext` of a `.tsv` path -/

/-- The last occurrence of `c` in a list, as the search from the end finds it. -/
theorem findIdx?_reverse_cases (c : Char) (cs : List Char) :
    (cs.reverse.findIdx? (· = c) = none ∧ c ∉ cs) ∨
      ∃ u v, cs = u ++ c :: v ∧ c ∉ v ∧ cs.reverse.findIdx? (· = c) = some v.length := by
  induction cs using List.reverseRecOn with
  | nil => exact .inl ⟨rfl, List.not_mem_nil _⟩
  | append_singleton cs x ih =>
    rw [List.reverse_append, List.reverse_singleton, List.findIdx?_append]
    by_cases hx : x = c
    · subst hx
      exact .inr ⟨cs, [], rfl, List.not_mem_nil _, by simp⟩
    · have hx' : [x].findIdx? (· = c) = none := by simp [hx]
      rw [hx', Option.none_or]
      rcases ih with ⟨hn, hc⟩ | ⟨u, v, rfl, hv, hi⟩
      · exact .inl ⟨by simp [hn], by simp [hc, Ne.symm hx]⟩
      · exact .inr ⟨u, v ++ [x], by simp, by simp [hv, Ne.symm hx], by rw [hi]; simp⟩

/-- The last component starts after a prefix that is empty or ends in `/`,
    when no `/` follows. -/
theorem lastSepEnd_append {dir rest : List Char} (hdir : dir = [] ∨ dir.getLast? = some '/')
    (hrest : '/' ∉ rest) : lastSepEnd (dir ++ rest) = dir.length := by
  have hr : rest.reverse.findIdx? (· = '/') = none :=
    List.findIdx?_eq_none_iff.2 fun x hx => by
      simp only [decide_eq_false_iff_not]
      rintro rfl
      exact hrest (List.mem_reverse.1 hx)
  rcases hdir with rfl | hdir
  · simp [lastSepEnd, hr]
  · rw [← List.dropLast_append_getLast? '/' hdir]
    simp [lastSepEnd, List.findIdx?_append, hr]
    omega

/-- Every list is a prefix that is empty or ends in `/`, where the last
    component starts, and a last component without `/`. -/
theorem lastSepEnd_spec (cs : List Char) :
    ∃ dir rest, cs = dir ++ rest ∧ lastSepEnd cs = dir.length ∧ '/' ∉ rest ∧
      (dir = [] ∨ dir.getLast? = some '/') := by
  rcases findIdx?_reverse_cases '/' cs with ⟨-, hc⟩ | ⟨u, v, rfl, hv, -⟩
  · exact ⟨[], cs, rfl, lastSepEnd_append (.inl rfl) hc, hc, .inl rfl⟩
  · have hcs : u ++ '/' :: v = u ++ ['/'] ++ v := by simp
    exact ⟨u ++ ['/'], v, hcs, hcs ▸ lastSepEnd_append (.inr (List.getLast?_concat u)) hv, hv,
      .inr (List.getLast?_concat u)⟩

/-- A path whose last component is a stem with a character other than `.`,
    followed by `.tsv`. -/
def TsvPath (p : String) : Prop :=
  ∃ dir stem : List Char, p.data = dir ++ stem ++ ".tsv".data ∧
    (dir = [] ∨ dir.getLast? = some '/') ∧ '/' ∉ stem ∧ ∃ c ∈ stem, c ≠ '.'

/-- **What `splitext` reads as a `.tsv` path.** The extension is `.tsv` exactly
    when the last component is a stem with a character other than `.`,
    followed by `.tsv`; `.tsv` and `..tsv` alone have no extension. -/
theorem splitext_eq_tsv_iff (p : String) : (splitext p).2 = ".tsv" ↔ TsvPath p := by
  obtain ⟨cs⟩ := p
  constructor
  · intro h
    obtain ⟨dir, rest, hcs, hstart, hrest, hdir⟩ := lastSepEnd_spec cs
    rcases findIdx?_reverse_cases '.' cs with ⟨hn, -⟩ | ⟨u, v, hu, -, hi⟩
    · simp [splitext, hn] at h
    have hdot : cs.length - 1 - v.length = u.length := by rw [hu]; simp
    simp only [splitext, hi, hdot, hstart] at h
    split at h
    case isFalse => simp at h
    case isTrue hc =>
    simp only [Bool.and_eq_true, decide_eq_true_eq] at hc
    have hext : '.' :: v = ".tsv".data := by
      have := congrArg String.data h
      rwa [hu, List.drop_left' rfl] at this
    -- the stem: the part of `u` in the last component
    have hsplit : u = dir ++ u.drop dir.length := by
      have := congrArg (List.take dir.length) (hcs.symm.trans hu)
      rw [List.take_left' rfl, List.take_append_of_le_length hc.1] at this
      conv_lhs => rw [← List.take_append_drop dir.length u, ← this]
    have hrest' : rest = u.drop dir.length ++ '.' :: v := by
      rw [hsplit, List.append_assoc] at hu
      exact List.append_cancel_left (hcs.symm.trans hu)
    refine ⟨dir, u.drop dir.length, ?_, hdir, fun h' => hrest (by rw [hrest']; simp [h']), ?_⟩
    · show cs = _
      rw [← hext, List.append_assoc, ← hrest', hcs]
    · obtain ⟨c, hc', hcd⟩ := List.any_eq_true.1 hc.2
      rw [hcs, List.drop_left' rfl, hrest', List.take_left' (by simp)] at hc'
      exact ⟨c, hc', by simpa using hcd⟩
  · rintro ⟨dir, stem, hp, hdir, hsl, c, hc, hcd⟩
    simp only [show ".tsv".data = ['.', 't', 's', 'v'] from rfl] at hp
    subst hp
    have hstart : lastSepEnd (dir ++ stem ++ ['.', 't', 's', 'v']) = dir.length := by
      rw [List.append_assoc]
      exact lastSepEnd_append hdir (by simp [hsl])
    have hdot : (dir ++ stem ++ ['.', 't', 's', 'v']).reverse.findIdx? (· = '.') = some 3 := by
      rw [List.reverse_append, List.findIdx?_append]; rfl
    have hlen : (dir ++ stem ++ ['.', 't', 's', 'v']).length - 1 - 3 = (dir ++ stem).length := by
      simp only [List.length_append, List.length_cons, List.length_nil]
      omega
    simp only [splitext, hdot, hstart, hlen]
    rw [if_pos, List.drop_left' rfl]
    simp only [Bool.and_eq_true, decide_eq_true_eq, List.any_eq_true]
    refine ⟨by simp, c, ?_, by simpa using hcd⟩
    rw [List.append_assoc, List.drop_left' rfl, List.length_append, Nat.add_sub_cancel_left,
      List.take_left' rfl]
    exact hc

/-- A path whose last component ends in `m.tsv`, with `m` not empty and
    free of `/` and `.`, has the extension `.tsv`, whatever comes before. -/
theorem splitext_tsv {pre m : List Char} (hsl : '/' ∉ m) (hdt : '.' ∉ m) (hne : m ≠ []) :
    (splitext ⟨pre ++ m ++ ".tsv".data⟩).2 = ".tsv" := by
  obtain ⟨dir, rest, rfl, -, hrest, hdir⟩ := lastSepEnd_spec pre
  obtain ⟨x, hx⟩ := List.exists_mem_of_ne_nil m hne
  exact (splitext_eq_tsv_iff _).2 ⟨dir, rest ++ m, by simp, hdir, by simp [hrest, hsl], x,
    List.mem_append_right _ hx, fun h => hdt (h ▸ hx)⟩

end GqlPython
