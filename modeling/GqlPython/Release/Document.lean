import Mathlib.Data.List.Lex
import GqlPython.Storage.Files
import GqlPython.Text.Decimal

/-! # `release.py`: the section numbers of the README

    `Document(text)` splits the README into lines and numbers its headers in
    `__assign_section_numbers`. A line matching `^#(#+) (.*)` is a header of
    level `len(m[1]) - 1`; it adds one to that level's counter among six and
    sets the deeper ones to zero, and its number `sec` is the counters up to
    the first zero, each followed by a dot. The line becomes
    `#{m[1]} {sec} {title}`, and the header goes to `__sections` and to the
    anchor map.

    Whatever the headers, the loop gives each header one number, with which its
    line is rewritten (`renumberLines`) and its entry in `__sections` made
    (`numberLines_shape`). What the numbers are meant to form is an outline
    (`outline`): each header opens a number one component longer than the
    enclosing header's. The counters carry that outline exactly when the
    document starts at the top level and never skips one
    (`numberLines_outline`); then every number is non-empty, the numbers are
    distinct, and each extends the nearest enclosing header's number by one
    component (`numbering_extends`, `numbering_top`). The constructor raises
    `IndexError` on a header of eight or more `#`s (`numberLines_ok_iff`), and
    a first header below the top level or a header that skips a level gets an
    empty number or one another header has.
-/

namespace GqlPython

/-! ### Anchors -/

/-- `re.sub('[...]+', '-', text)` for a class of characters `sep`: each run
    becomes one dash; `inRun` says the character before was in a run. -/
def collapseRuns (sep : Char → Bool) (inRun : Bool) : List Char → List Char
  | [] => []
  | c :: cs =>
    if sep c then
      if inRun then collapseRuns sep true cs else '-' :: collapseRuns sep true cs
    else c :: collapseRuns sep false cs

/-- `Document.__to_markdown_hashtag(text)`, with `lower` for `str.lower`,
    whose Unicode case mapping is not modelled: `re.sub(r'[\.\s]+', '-', text)`
    after `:`, `/`, `(` and `)` are dropped. -/
def toMarkdownHashtag (lower : String → String) (text : String) : String :=
  ⟨'#' :: collapseRuns (fun c => c = '.' || isPySpace c) false
    ((lower text).data.filter fun c => c ∉ [':', '/', '(', ')'])⟩

example : toMarkdownHashtag id "Table: a/b (c). d" = "#Table-ab-c-d" := by decide

/-- A collapsed run is a dash; every other character comes from the text. -/
theorem mem_collapseRuns {sep : Char → Bool} {c : Char} :
    ∀ {inRun : Bool} {cs : List Char}, c ∈ collapseRuns sep inRun cs → c = '-' ∨ c ∈ cs
  | _, [], h => absurd h (List.not_mem_nil _)
  | inRun, a :: cs, h => by
    unfold collapseRuns at h
    split at h
    · split at h
      · exact (mem_collapseRuns h).imp_right (List.mem_cons_of_mem a)
      · rcases List.mem_cons.1 h with h | h
        · exact .inl h
        · exact (mem_collapseRuns h).imp_right (List.mem_cons_of_mem a)
    · rcases List.mem_cons.1 h with rfl | h
      · exact .inr (List.mem_cons_self _ _)
      · exact (mem_collapseRuns h).imp_right (List.mem_cons_of_mem a)

/-- A markdown anchor has no `:` and no `)`, which the link pattern would stop at. -/
theorem colon_paren_not_mem_toMarkdownHashtag (lower : String → String) (text : String) :
    ':' ∉ (toMarkdownHashtag lower text).data ∧ ')' ∉ (toMarkdownHashtag lower text).data := by
  have key : ∀ c ∈ (toMarkdownHashtag lower text).data, c ≠ ':' ∧ c ≠ ')' := fun c hc => by
    rcases List.mem_cons.1 hc with rfl | hc
    · decide
    rcases mem_collapseRuns hc with rfl | hc
    · decide
    · have hf := (List.mem_filter.1 hc).2
      constructor <;> rintro rfl <;> simp at hf
  exact ⟨fun h => (key _ h).1 rfl, fun h => (key _ h).2 rfl⟩

/-! ### One header -/

/-- `re.match(r'^#(#+) (.*)', line)`: the groups `m[1]`, the `#`s after the
    first, and `m[2]`, the title up to the first newline. -/
def headerMatch (line : String) : Option (String × String) :=
  match line.data with
  | '#' :: rest =>
    match rest.takeWhile (· = '#'), rest.dropWhile (· = '#') with
    | _ :: _, ' ' :: title => some (⟨rest.takeWhile (· = '#')⟩, ⟨title.takeWhile (· ≠ '\n')⟩)
    | _, _ => none
  | _ => none

/-- `section_numbers[level] += 1`, then the counters past `level` are set to
    zero; `IndexError` for a level past the list. -/
def bumpLevel (nums : List Nat) (level : Nat) : Except PyError (List Nat) :=
  match nums[level]? with
  | some v => .ok (nums.take level ++ (v + 1) :: List.replicate (nums.length - (level + 1)) 0)
  | none => .error .index

/-- The loop that builds `sec`: `f'{v}.'` for each counter, up to the first zero. -/
def sectionText : List Nat → String
  | [] => ""
  | v :: vs => if v = 0 then "" else toString v ++ "." ++ sectionText vs

/-! ### The document -/

/-- What `__assign_section_numbers` sets. -/
structure Document where
  /-- `__lines`, with the header lines rewritten. -/
  lines : List String
  /-- `__sections`: `(len(m[1]), new_header)` of each header, in order. -/
  sections : List (Nat × String)
  /-- `__anchor_map`, from each title's markdown anchor to its new header. -/
  anchorMap : List (String × String)
  deriving DecidableEq, Repr

section
variable (lower : String → String)

/-- The loop over `__lines` with the counters `nums`; `d` holds what the lines
    before have given. -/
def numberLines (nums : List Nat) (d : Document) : List String → Except PyError Document
  | [] => .ok d
  | line :: rest =>
    match headerMatch line with
    | none => numberLines nums { d with lines := d.lines ++ [line] } rest
    | some (m1, m2) => do
      let nums ← bumpLevel nums (m1.length - 1)
      let newHeader := sectionText nums ++ " " ++ m2
      numberLines nums
        ⟨d.lines ++ ["#" ++ m1 ++ " " ++ newHeader], d.sections ++ [(m1.length, newHeader)],
          dictSet d.anchorMap (toMarkdownHashtag lower m2) newHeader⟩ rest

/-- `Document(text)`: `text.split('\n')`, then `__assign_section_numbers`. -/
def Document.new (text : String) : Except PyError Document :=
  numberLines lower [0, 0, 0, 0, 0, 0] ⟨[], [], []⟩ (pySplit text '\n')

end

/-- `m[1]` and `m[2]` of each header line, in order. -/
def headerMatches (lines : List String) : List (String × String) := lines.filterMap headerMatch

/-- The level `len(m[1]) - 1` of each header line, in order. -/
def headerLevels (lines : List String) : List Nat := (headerMatches lines).map fun m => m.1.length - 1

example : headerLevels ["## A", "text", "#### B", "#x", "# C", "##"] = [0, 2] := by decide

@[simp] theorem headerLevels_nil : headerLevels [] = [] := rfl

theorem headerMatches_of_none {line : String} (rest : List String) (h : headerMatch line = none) :
    headerMatches (line :: rest) = headerMatches rest := by
  simp [headerMatches, List.filterMap_cons, h]

theorem headerMatches_of_some {line m1 m2 : String} (rest : List String)
    (h : headerMatch line = some (m1, m2)) :
    headerMatches (line :: rest) = (m1, m2) :: headerMatches rest := by
  simp [headerMatches, List.filterMap_cons, h]

theorem headerLevels_of_none {line : String} (rest : List String) (h : headerMatch line = none) :
    headerLevels (line :: rest) = headerLevels rest := by
  rw [headerLevels, headerMatches_of_none rest h, headerLevels]

theorem headerLevels_of_some {line m1 m2 : String} (rest : List String)
    (h : headerMatch line = some (m1, m2)) :
    headerLevels (line :: rest) = (m1.length - 1) :: headerLevels rest := by
  rw [headerLevels, headerMatches_of_some rest h, List.map_cons, headerLevels]

/-! ### When the constructor returns -/

theorem bumpLevel_of_lt {nums : List Nat} {level : Nat} (h : level < nums.length) :
    bumpLevel nums level =
      .ok (nums.take level ++ (nums[level] + 1) :: List.replicate (nums.length - (level + 1)) 0) := by
  simp [bumpLevel, h]

theorem bumpLevel_of_le {nums : List Nat} {level : Nat} (h : nums.length ≤ level) :
    bumpLevel nums level = .error .index := by
  simp [bumpLevel, List.getElem?_eq_none h]

theorem length_bumpLevel {nums nums' : List Nat} {level : Nat} (h : bumpLevel nums level = .ok nums') :
    nums'.length = nums.length := by
  rcases Nat.lt_or_ge level nums.length with hl | hl
  · rw [bumpLevel_of_lt hl, Except.ok.injEq] at h
    subst h
    simp; omega
  · rw [bumpLevel_of_le hl] at h; cases h

section
variable (lower : String → String)

/-- **The constructor returns exactly when every header fits the counters.**
    A header of level past the list of counters raises `IndexError`. -/
theorem numberLines_ok_iff : ∀ (nums : List Nat) (d : Document) (lines : List String),
    (∃ d', numberLines lower nums d lines = .ok d') ↔ ∀ l ∈ headerLevels lines, l < nums.length
  | nums, d, [] => by simp [numberLines]
  | nums, d, line :: rest => by
    cases hm : headerMatch line with
    | none =>
      rw [headerLevels_of_none rest hm]
      simp only [numberLines, hm]
      exact numberLines_ok_iff nums _ rest
    | some m =>
      obtain ⟨m1, m2⟩ := m
      rw [headerLevels_of_some rest hm, List.forall_mem_cons]
      rcases Nat.lt_or_ge (m1.length - 1) nums.length with hl | hl
      · have hlen := length_bumpLevel (bumpLevel_of_lt hl)
        simp only [numberLines, hm, bumpLevel_of_lt hl, bind, Except.bind]
        rw [numberLines_ok_iff _ _ rest, hlen]
        exact ⟨fun h => ⟨hl, h⟩, And.right⟩
      · simp only [numberLines, hm, bumpLevel_of_le hl, bind, Except.bind, reduceCtorEq,
          exists_false, false_iff, not_and]
        exact fun h => absurd h (by omega)

end

/-! ### What the loop writes -/

/-- The lines after `__assign_section_numbers`, given the numbers `secs` of the
    headers in order: a header line `#{m[1]} {title}` becomes
    `#{m[1]} {sec} {title}`, every other line stays. -/
def renumberLines : List String → List String → List String
  | [], _ => []
  | line :: rest, secs =>
    match headerMatch line, secs with
    | some (m1, m2), sec :: secs => ("#" ++ m1 ++ " " ++ (sec ++ " " ++ m2)) :: renumberLines rest secs
    | _, secs => line :: renumberLines rest secs

@[simp] theorem renumberLines_nil (secs : List String) : renumberLines [] secs = [] := rfl

theorem renumberLines_of_none {line : String} (rest secs : List String) (h : headerMatch line = none) :
    renumberLines (line :: rest) secs = line :: renumberLines rest secs := by
  simp only [renumberLines, h]

theorem renumberLines_of_some {line m1 m2 : String} (rest : List String) (sec : String)
    (secs : List String) (h : headerMatch line = some (m1, m2)) :
    renumberLines (line :: rest) (sec :: secs) =
      ("#" ++ m1 ++ " " ++ (sec ++ " " ++ m2)) :: renumberLines rest secs := by
  simp only [renumberLines, h]

section
variable (lower : String → String)

/-- What one line does to the document being built. -/
theorem numberLines_cons_inv {nums : List Nat} {d d' : Document} {line : String}
    {rest : List String} (h : numberLines lower nums d (line :: rest) = .ok d') :
    (headerMatch line = none ∧ numberLines lower nums { d with lines := d.lines ++ [line] } rest = .ok d') ∨
    ∃ m1 m2 nums', headerMatch line = some (m1, m2) ∧
      numberLines lower nums' ⟨d.lines ++ ["#" ++ m1 ++ " " ++ (sectionText nums' ++ " " ++ m2)],
        d.sections ++ [(m1.length, sectionText nums' ++ " " ++ m2)],
        dictSet d.anchorMap (toMarkdownHashtag lower m2) (sectionText nums' ++ " " ++ m2)⟩ rest = .ok d' := by
  cases hm : headerMatch line with
  | none => simp only [numberLines, hm] at h; exact .inl ⟨rfl, h⟩
  | some m =>
    obtain ⟨m1, m2⟩ := m
    simp only [numberLines, hm, bind, Except.bind] at h
    cases hb : bumpLevel nums (m1.length - 1) with
    | error e => rw [hb] at h; cases h
    | ok nums' => rw [hb] at h; exact .inr ⟨m1, m2, nums', rfl, h⟩

/-- **What the loop writes, whatever the numbers.** Each header gets one number:
    its line is rewritten with it, and it goes to `__sections` with it. -/
theorem numberLines_shape : ∀ (nums : List Nat) (d d' : Document) (lines : List String),
    numberLines lower nums d lines = .ok d' →
    ∃ ns : List String, ns.length = (headerMatches lines).length ∧
      d'.lines = d.lines ++ renumberLines lines ns ∧
      d'.sections = d.sections ++ List.zipWith (fun m n => (m.1.length, n ++ " " ++ m.2))
        (headerMatches lines) ns
  | _, d, _, [], h => by cases h; exact ⟨[], rfl, by simp, by simp [headerMatches]⟩
  | nums, d, d', line :: rest, h => by
    rcases numberLines_cons_inv lower h with ⟨hm, h⟩ | ⟨m1, m2, nums', hm, h⟩
    · obtain ⟨ns, hlen, hl, hs⟩ := numberLines_shape nums _ d' rest h
      refine ⟨ns, by rw [headerMatches_of_none rest hm, hlen], ?_, by rw [hs, headerMatches_of_none rest hm]⟩
      rw [hl, renumberLines_of_none rest ns hm]
      simp
    · obtain ⟨ns, hlen, hl, hs⟩ := numberLines_shape nums' _ d' rest h
      refine ⟨sectionText nums' :: ns, by simp [headerMatches_of_some rest hm, hlen], ?_, ?_⟩
      · rw [hl, renumberLines_of_some rest _ ns hm]
        simp
      · rw [hs, headerMatches_of_some rest hm]
        simp

end

/-! ### The outline the numbers are meant to form -/

/-- The number a header at `level` gets after the open number `cur`: the first
    `level` components of `cur`, then the next one at `level`. -/
def nextNumber (cur : List Nat) (level : Nat) : List Nat := cur.take level ++ [cur.getD level 0 + 1]

/-- The headers of `levels` with their numbers in an outline that goes on from
    the open number `cur`. -/
def outline (cur : List Nat) : List Nat → List (Nat × List Nat)
  | [] => []
  | l :: ls => (l, nextNumber cur l) :: outline (nextNumber cur l) ls

/-- The outline's levels with the numbers as `sec` spells them. -/
def numbering (cur : List Nat) (levels : List Nat) : List (Nat × String) :=
  (outline cur levels).map fun p => (p.1, sectionText p.2)

/-- Levels that skip none: each header is at most one level below the header
    before it; `depth` is one past that header's level, `0` before the first. -/
def nestedFrom (depth : Nat) : List Nat → Bool
  | [] => true
  | l :: ls => decide (l ≤ depth) && nestedFrom (l + 1) ls

example : numbering [] [0, 1, 1, 2, 0, 1] =
    [(0, "1."), (1, "1.1."), (1, "1.2."), (2, "1.2.1."), (0, "2."), (1, "2.1.")] := by decide

@[simp] theorem nestedFrom_cons (depth l : Nat) (ls : List Nat) :
    nestedFrom depth (l :: ls) = true ↔ l ≤ depth ∧ nestedFrom (l + 1) ls = true := by
  simp [nestedFrom]

@[simp] theorem numbering_nil (cur : List Nat) : numbering cur [] = [] := rfl

theorem numbering_cons (cur : List Nat) (l : Nat) (ls : List Nat) :
    numbering cur (l :: ls) =
      (l, sectionText (nextNumber cur l)) :: numbering (nextNumber cur l) ls := rfl

theorem length_nextNumber {cur : List Nat} {l : Nat} (h : l ≤ cur.length) :
    (nextNumber cur l).length = l + 1 := by
  simp [nextNumber, h]

theorem take_nextNumber {cur : List Nat} {l m : Nat} (hm : m ≤ l) (h : l ≤ cur.length) :
    (nextNumber cur l).take m = cur.take m := by
  rw [nextNumber, List.take_append_of_le_length (by simp; omega), List.take_take,
    Nat.min_eq_left hm]

theorem pos_nextNumber {cur : List Nat} (h : ∀ v ∈ cur, 0 < v) (l : Nat) :
    ∀ v ∈ nextNumber cur l, 0 < v := by
  simp only [nextNumber, List.mem_append, List.mem_singleton]
  rintro v (hv | rfl)
  · exact h v (List.mem_of_mem_take hv)
  · omega

/-- A new header's number is past the open one in `List.Lex`. -/
theorem lex_nextNumber {cur : List Nat} {l : Nat} (h : l ≤ cur.length) :
    List.Lex (· < ·) cur (nextNumber cur l) := by
  rcases Nat.lt_or_eq_of_le h with h | rfl
  · have hcur : cur = cur.take l ++ cur[l] :: cur.drop (l + 1) := by
      rw [← List.drop_eq_getElem_cons h, List.take_append_drop]
    have hget : cur.getD l 0 = cur[l] := by simp [List.getD_eq_getElem?_getD, h]
    rw [nextNumber, hget]
    conv_lhs => rw [hcur]
    exact List.Lex.append_left _ (List.Lex.rel (Nat.lt_succ_self _)) _
  · simpa [nextNumber] using List.Lex.append_left (· < ·) (List.Lex.nil (a := 1) (l := [])) cur

theorem nestedFrom_of_append {depth : Nat} {as bs : List Nat}
    (h : nestedFrom depth (as ++ bs) = true) : nestedFrom depth as = true := by
  induction as generalizing depth with
  | nil => rfl
  | cons a as ih =>
    rw [List.cons_append, nestedFrom_cons] at h
    exact (nestedFrom_cons _ _ _).2 ⟨h.1, ih h.2⟩

/-- After nested headers, the open number is as deep as the last of them. -/
theorem nestedFrom_foldl {cur : List Nat} {as bs : List Nat}
    (h : nestedFrom cur.length (as ++ bs) = true) :
    nestedFrom (as.foldl nextNumber cur).length bs = true := by
  induction as generalizing cur with
  | nil => exact h
  | cons a as ih =>
    rw [List.cons_append, nestedFrom_cons] at h
    exact ih (by rw [length_nextNumber h.1]; exact h.2)

theorem pos_foldl_nextNumber {cur : List Nat} (h : ∀ v ∈ cur, 0 < v) :
    ∀ (as : List Nat), ∀ v ∈ as.foldl nextNumber cur, 0 < v
  | [] => h
  | a :: as => pos_foldl_nextNumber (pos_nextNumber h a) as

/-- Headers at `m` or deeper keep the first `m` components of the open number. -/
theorem take_foldl_nextNumber {cur : List Nat} {m : Nat} :
    ∀ {as : List Nat}, nestedFrom cur.length as = true → (∀ l ∈ as, m ≤ l) →
      (as.foldl nextNumber cur).take m = cur.take m
  | [], _, _ => rfl
  | a :: as, h, hm => by
    rw [nestedFrom_cons] at h
    have hma := hm a (List.mem_cons_self _ _)
    rw [List.foldl_cons, take_foldl_nextNumber (by rw [length_nextNumber h.1]; exact h.2)
      fun l hl => hm l (List.mem_cons_of_mem _ hl), take_nextNumber hma h.1]

/-! ### Numbers as `sec` spells them -/

theorem not_dot_toString (v : Nat) : '.' ∉ (toString v).data := fun h => by
  have := isDigit_toDigits v '.' h
  exact absurd this (by decide)

theorem dot_length : ".".length = 1 := rfl

theorem sectionText_cons {v : Nat} (hv : 0 < v) (vs : List Nat) :
    sectionText (v :: vs) = toString v ++ "." ++ sectionText vs := by
  simp [sectionText, Nat.pos_iff_ne_zero.1 hv]

/-- On numbers of positive components, `sec` tells the number. -/
theorem sectionText_inj : ∀ {a b : List Nat}, (∀ v ∈ a, 0 < v) → (∀ v ∈ b, 0 < v) →
    sectionText a = sectionText b → a = b
  | [], [], _, _, _ => rfl
  | [], v :: _, _, hb, h => by
    rw [sectionText_cons (hb v (List.mem_cons_self _ _))] at h
    exact absurd (congrArg String.length h) (by simp [sectionText, dot_length]; omega)
  | u :: _, [], ha, _, h => by
    rw [sectionText_cons (ha u (List.mem_cons_self _ _))] at h
    exact absurd (congrArg String.length h) (by simp [sectionText, dot_length])
  | u :: as, v :: bs, ha, hb, h => by
    rw [sectionText_cons (ha u (List.mem_cons_self _ _)),
      sectionText_cons (hb v (List.mem_cons_self _ _))] at h
    have hd := congrArg String.data h
    simp only [String.data_append, List.append_assoc] at hd
    obtain ⟨huv, hrest⟩ := append_cons_cancel (not_dot_toString u) (not_dot_toString v) hd
    rw [toDigits_injective huv, sectionText_inj (fun w hw => ha w (List.mem_cons_of_mem _ hw))
      (fun w hw => hb w (List.mem_cons_of_mem _ hw)) (String.ext hrest)]

theorem sectionText_append_single {c : List Nat} (hc : ∀ v ∈ c, 0 < v) {v : Nat} (hv : 0 < v) :
    sectionText (c ++ [v]) = sectionText c ++ toString v ++ "." := by
  induction c with
  | nil =>
    rw [List.nil_append, sectionText_cons hv]
    simp [sectionText]
  | cons u c ih =>
    have hu := hc u (List.mem_cons_self _ _)
    rw [List.cons_append, sectionText_cons hu, sectionText_cons hu,
      ih fun w hw => hc w (List.mem_cons_of_mem _ hw)]
    simp only [String.append_assoc]

theorem sectionText_append_zeros {c : List Nat} (hc : ∀ v ∈ c, 0 < v) (k : Nat) :
    sectionText (c ++ List.replicate k 0) = sectionText c := by
  induction c with
  | nil => cases k <;> rfl
  | cons u c ih =>
    have hu := hc u (List.mem_cons_self _ _)
    rw [List.cons_append, sectionText_cons hu, sectionText_cons hu,
      ih fun w hw => hc w (List.mem_cons_of_mem _ hw)]

theorem sectionText_ne_empty {c : List Nat} (hc : ∀ v ∈ c, 0 < v) (hne : c ≠ []) :
    sectionText c ≠ "" := by
  obtain ⟨v, vs, rfl⟩ := List.exists_cons_of_ne_nil hne
  rw [sectionText_cons (hc v (List.mem_cons_self _ _))]
  intro h
  have := congrArg String.length h
  simp [dot_length] at this

/-! ### The counters carry the outline -/

/-- The six counters while `cur` is the open number: its components, then zeros. -/
def counters (cur : List Nat) : List Nat := cur ++ List.replicate (6 - cur.length) 0

theorem getElem?_counters {cur : List Nat} {l : Nat} (hl : l ≤ cur.length) (h6 : l < 6) :
    (counters cur)[l]? = some (cur.getD l 0) := by
  rcases Nat.lt_or_eq_of_le hl with hl | rfl
  · simp [counters, List.getElem?_append_left hl, List.getD_eq_getElem?_getD, hl]
  · simp [counters, List.getElem?_append_right le_rfl, List.getElem?_replicate, h6,
      List.getD_eq_getElem?_getD]

/-- **One header.** From the counters of an open number, a header at most one
    level deeper moves the counters to those of its outline number. -/
theorem bumpLevel_counters {cur : List Nat} {l : Nat} (hl : l ≤ cur.length) (h6 : l < 6)
    (hc : cur.length ≤ 6) : bumpLevel (counters cur) l = .ok (counters (nextNumber cur l)) := by
  have hlen : (counters cur).length = 6 := by simp [counters]; omega
  simp only [bumpLevel, getElem?_counters hl h6, hlen]
  rw [counters, counters, length_nextNumber hl, List.take_append_of_le_length hl, nextNumber]
  simp

section
variable (lower : String → String)

/-- **The whole loop.** From the counters of an open number, nested headers
    that fit the counters are numbered as the outline numbers them. -/
theorem numberLines_outline : ∀ (cur : List Nat) (d : Document) (lines : List String),
    (∀ v ∈ cur, 0 < v) → cur.length ≤ 6 → nestedFrom cur.length (headerLevels lines) = true →
    (∀ l ∈ headerLevels lines, l < 6) →
    ∃ d', numberLines lower (counters cur) d lines = .ok d' ∧
      d'.lines = d.lines ++ renumberLines lines ((numbering cur (headerLevels lines)).map (·.2)) ∧
      d'.sections = d.sections ++ List.zipWith (fun m n => (m.1.length, n ++ " " ++ m.2))
        (headerMatches lines) ((numbering cur (headerLevels lines)).map (·.2))
  | cur, d, [], _, _, _, _ => ⟨d, rfl, by simp, by simp [headerMatches, numbering, outline]⟩
  | cur, d, line :: rest, hpos, hc, hn, h6 => by
    cases hm : headerMatch line with
    | none =>
      rw [headerLevels_of_none rest hm] at hn h6
      obtain ⟨d', hd', hl, hs⟩ := numberLines_outline cur _ rest hpos hc hn h6
      refine ⟨d', by simpa only [numberLines, hm] using hd', ?_, ?_⟩
      · rw [hl, headerLevels_of_none rest hm, renumberLines_of_none _ _ hm]
        simp
      · rw [hs, headerMatches_of_none rest hm, headerLevels_of_none rest hm]
    | some m =>
      obtain ⟨m1, m2⟩ := m
      rw [headerLevels_of_some rest hm, nestedFrom_cons] at hn
      rw [headerLevels_of_some rest hm, List.forall_mem_cons] at h6
      have hnext : nestedFrom (nextNumber cur (m1.length - 1)).length (headerLevels rest) = true := by
        rw [length_nextNumber hn.1]; exact hn.2
      obtain ⟨d', hd', hl, hs⟩ := numberLines_outline _ _ rest (pos_nextNumber hpos _)
        (by rw [length_nextNumber hn.1]; omega) hnext h6.2
      have hsec : sectionText (counters (nextNumber cur (m1.length - 1))) =
          sectionText (nextNumber cur (m1.length - 1)) :=
        sectionText_append_zeros (pos_nextNumber hpos _) _
      refine ⟨d', ?_, ?_, ?_⟩
      · simp only [numberLines, hm, bumpLevel_counters hn.1 h6.1 hc, bind, Except.bind]
        exact hd'
      · rw [hl, headerLevels_of_some rest hm, numbering_cons, List.map_cons,
          renumberLines_of_some _ _ _ hm, hsec]
        simp
      · rw [hs, headerMatches_of_some rest hm, headerLevels_of_some rest hm, numbering_cons,
          List.map_cons, hsec]
        simp

end

/-! ### What the outline gives -/

theorem map_fst_numbering (cur : List Nat) : ∀ ls, (numbering cur ls).map (·.1) = ls
  | [] => rfl
  | l :: ls => by rw [numbering_cons, List.map_cons, map_fst_numbering _ ls]

theorem zip_numbering (cur : List Nat) : ∀ ls, ls.zip ((numbering cur ls).map (·.2)) = numbering cur ls
  | [] => rfl
  | l :: ls => by rw [numbering_cons, List.map_cons, List.zip_cons_cons, zip_numbering _ ls]

theorem pos_outline : ∀ {cur ls : List Nat}, (∀ v ∈ cur, 0 < v) →
    ∀ p ∈ outline cur ls, p.2 ≠ [] ∧ ∀ v ∈ p.2, 0 < v
  | _, [], _, p, hp => absurd hp (List.not_mem_nil _)
  | cur, l :: ls, h, p, hp => by
    rcases List.mem_cons.1 hp with rfl | hp
    · exact ⟨by simp [nextNumber], pos_nextNumber h l⟩
    · exact pos_outline (pos_nextNumber h l) p hp

/-- Along nested headers, every number is past the open one in `List.Lex`. -/
theorem lex_outline : ∀ {cur ls : List Nat}, nestedFrom cur.length ls = true →
    ∀ p ∈ outline cur ls, List.Lex (· < ·) cur p.2
  | _, [], _, p, hp => absurd hp (List.not_mem_nil _)
  | cur, l :: ls, h, p, hp => by
    rw [nestedFrom_cons] at h
    have h' : nestedFrom (nextNumber cur l).length ls = true := by rw [length_nextNumber h.1]; exact h.2
    rcases List.mem_cons.1 hp with rfl | hp
    · exact lex_nextNumber h.1
    · exact trans_of (List.Lex (· < ·)) (lex_nextNumber h.1) (lex_outline h' p hp)

theorem outline_pairwise : ∀ {cur ls : List Nat}, nestedFrom cur.length ls = true →
    (outline cur ls).Pairwise fun p q => List.Lex (· < ·) p.2 q.2
  | _, [], _ => List.Pairwise.nil
  | cur, l :: ls, h => by
    rw [nestedFrom_cons] at h
    have h' : nestedFrom (nextNumber cur l).length ls = true := by rw [length_nextNumber h.1]; exact h.2
    exact List.Pairwise.cons (fun q hq => lex_outline h' q hq) (outline_pairwise h')

/-- **Distinct numbers.** Nested headers get numbers that differ pairwise. -/
theorem numbering_nodup {ls : List Nat} (h : nestedFrom 0 ls = true) :
    ((numbering [] ls).map (·.2)).Nodup := by
  rw [numbering, List.map_map, List.Nodup, List.pairwise_map]
  refine (outline_pairwise h : List.Pairwise _ (outline [] ls)).imp_of_mem fun hp hq hlt heq => ?_
  have hpos : ∀ p ∈ outline [] ls, p.2 ≠ [] ∧ ∀ v ∈ p.2, 0 < v := pos_outline (List.forall_mem_nil _)
  rw [sectionText_inj (hpos _ hp).2 (hpos _ hq).2 heq] at hlt
  exact irrefl_of (List.Lex (· < ·)) _ hlt

theorem numbering_ne_empty {ls : List Nat} : ∀ n ∈ (numbering [] ls).map (·.2), n ≠ "" := by
  simp only [numbering, List.map_map, List.mem_map]
  rintro _ ⟨p, hp, rfl⟩
  obtain ⟨hne, hpos⟩ := pos_outline (List.forall_mem_nil _) p hp
  exact sectionText_ne_empty hpos hne

/-- Where a header stands in the numbering: the levels before it, and the
    numbering after it from its own number. -/
theorem numbering_eq_append_cons : ∀ {cur ls : List Nat} {pre rest : List (Nat × String)}
    {x : Nat × String}, numbering cur ls = pre ++ x :: rest →
    ∃ as bs, ls = as ++ x.1 :: bs ∧ pre = numbering cur as ∧
      x.2 = sectionText (nextNumber (as.foldl nextNumber cur) x.1) ∧
      rest = numbering (nextNumber (as.foldl nextNumber cur) x.1) bs
  | _, [], pre, _, _, h => by simp at h
  | cur, l :: ls, [], _, _, h => by
    rw [numbering_cons, List.nil_append, List.cons.injEq] at h
    obtain ⟨rfl, rfl⟩ := h
    exact ⟨[], ls, rfl, rfl, rfl, rfl⟩
  | cur, l :: ls, p :: pre, _, _, h => by
    rw [numbering_cons, List.cons_append, List.cons.injEq] at h
    obtain ⟨rfl, h⟩ := h
    obtain ⟨as, bs, rfl, rfl, hx, hr⟩ := numbering_eq_append_cons h
    exact ⟨l :: as, bs, rfl, rfl, hx, hr⟩

/-- **The nearest enclosing header.** In a nested numbering, a header's number
    is that of the nearest header before it at a lower level, with one more
    component. -/
theorem numbering_extends {ls : List Nat} (hn : nestedFrom 0 ls = true)
    {pre mid post : List (Nat × String)} {x y : Nat × String}
    (h : numbering [] ls = pre ++ x :: (mid ++ y :: post)) (hxy : x.1 < y.1)
    (hmid : ∀ z ∈ mid, y.1 ≤ z.1) : ∃ v, 0 < v ∧ y.2 = x.2 ++ toString v ++ "." := by
  obtain ⟨as, bs, rfl, -, hx, hrest⟩ := numbering_eq_append_cons h
  obtain ⟨ms, ps, rfl, hm, hy, -⟩ := numbering_eq_append_cons hrest.symm
  have hna : nestedFrom (as.foldl nextNumber []).length (x.1 :: (ms ++ y.1 :: ps)) = true :=
    nestedFrom_foldl hn
  rw [nestedFrom_cons] at hna
  have hcx := length_nextNumber hna.1
  have hms : ∀ l ∈ ms, y.1 ≤ l := fun l hl => by
    rw [← map_fst_numbering (nextNumber (as.foldl nextNumber []) x.1) ms, ← hm] at hl
    obtain ⟨z, hz, rfl⟩ := List.mem_map.1 hl
    exact hmid z hz
  have hy1 : y.1 = x.1 + 1 := by
    cases ms with
    | nil => have := ((nestedFrom_cons _ _ _).1 hna.2).1; omega
    | cons m ms =>
      have := ((nestedFrom_cons _ _ _).1 hna.2).1
      have := hms m (List.mem_cons_self _ _)
      omega
  have htake := take_foldl_nextNumber (m := y.1)
    (nestedFrom_of_append (by rw [hcx]; exact hna.2)) hms
  have hpos := pos_nextNumber (pos_foldl_nextNumber (List.forall_mem_nil _) as) x.1
  refine ⟨(ms.foldl nextNumber (nextNumber (as.foldl nextNumber []) x.1)).getD y.1 0 + 1,
    Nat.succ_pos _, ?_⟩
  rw [hy, hx, nextNumber.eq_1 (ms.foldl _ _), htake, List.take_of_length_le (by omega),
    sectionText_append_single hpos (Nat.succ_pos _)]

/-- **Top-level headers.** A header with no header of lower level before it
    has a one-component number. -/
theorem numbering_top {ls : List Nat} (hn : nestedFrom 0 ls = true)
    {pre post : List (Nat × String)} {y : Nat × String} (h : numbering [] ls = pre ++ y :: post)
    (hpre : ∀ z ∈ pre, y.1 ≤ z.1) : ∃ v, 0 < v ∧ y.2 = toString v ++ "." := by
  obtain ⟨as, bs, rfl, hp, hy, -⟩ := numbering_eq_append_cons h
  have hy0 : y.1 = 0 := by
    cases as with
    | nil => simp at hn; exact hn.1
    | cons a as =>
      have ha := ((nestedFrom_cons _ _ _).1 hn).1
      have := hpre _ (by rw [hp, numbering_cons]; exact List.mem_cons_self _ _)
      simp only at this
      omega
  refine ⟨(as.foldl nextNumber []).getD 0 0 + 1, Nat.succ_pos _, ?_⟩
  rw [hy, hy0, nextNumber, List.take_zero, List.nil_append, sectionText_cons (Nat.succ_pos _)]
  simp [sectionText]

/-! ### `Document(text)` -/

/-- **Section numbers.** `Document(text)` returns exactly when no header line
    has more than seven `#`s. When it returns, each header has one number `sec`:
    its line `#{m[1]} {title}` has become `#{m[1]} {sec} {title}`, and it is in
    `__sections` as `(len(m[1]), f'{sec} {title}')`. When moreover the first
    header is a `## ` header and no header is more than one level below the
    header before it, every header's number is non-empty, the numbers are
    distinct, each header's number is that of the nearest header before it of
    lower level with one more component, and a header with no such header has
    a one-component number. -/
theorem section_numbers_outline (lower : String → String) (text : String) :
    ((∃ d, Document.new lower text = .ok d) ↔ ∀ l ∈ headerLevels (pySplit text '\n'), l < 6) ∧
    ∀ d, Document.new lower text = .ok d → ∃ ns : List String,
      ns.length = (headerMatches (pySplit text '\n')).length ∧
      d.lines = renumberLines (pySplit text '\n') ns ∧
      d.sections = List.zipWith (fun m n => (m.1.length, n ++ " " ++ m.2))
        (headerMatches (pySplit text '\n')) ns ∧
      (nestedFrom 0 (headerLevels (pySplit text '\n')) = true →
        (∀ n ∈ ns, n ≠ "") ∧ ns.Nodup ∧
        (∀ pre x mid y post, (headerLevels (pySplit text '\n')).zip ns = pre ++ x :: (mid ++ y :: post) →
          x.1 < y.1 → (∀ z ∈ mid, y.1 ≤ z.1) → ∃ v, 0 < v ∧ y.2 = x.2 ++ toString v ++ ".") ∧
        (∀ pre y post, (headerLevels (pySplit text '\n')).zip ns = pre ++ y :: post →
          (∀ z ∈ pre, y.1 ≤ z.1) → ∃ v, 0 < v ∧ y.2 = toString v ++ ".")) := by
  refine ⟨numberLines_ok_iff lower _ _ _, fun d hd => ?_⟩
  by_cases hn : nestedFrom 0 (headerLevels (pySplit text '\n')) = true
  case neg =>
    obtain ⟨ns, hlen, hl, hs⟩ := numberLines_shape lower _ _ _ _ hd
    exact ⟨ns, hlen, by simpa using hl, by simpa using hs, fun h => absurd h hn⟩
  case pos =>
    obtain ⟨d', hd', hl, hs⟩ := numberLines_outline lower [] ⟨[], [], []⟩ _ (by simp) (by simp) hn
      ((numberLines_ok_iff lower _ _ _).1 ⟨d, hd⟩)
    cases (hd'.symm.trans hd : Except.ok d' = .ok d)
    have hlen : (numbering [] (headerLevels (pySplit text '\n'))).length =
        (headerMatches (pySplit text '\n')).length := by
      simpa only [List.length_map, headerLevels] using
        congrArg List.length (map_fst_numbering [] (headerLevels (pySplit text '\n')))
    refine ⟨_, by rw [List.length_map, hlen], by simpa using hl, by simpa using hs, fun _ =>
      ⟨numbering_ne_empty, numbering_nodup hn, fun pre x mid y post h => ?_, fun pre y post h => ?_⟩⟩
    · rw [zip_numbering] at h
      exact numbering_extends hn h
    · rw [zip_numbering] at h
      exact numbering_top hn h

/-- A nested document: its header lines are rewritten with numbers that are
    distinct. -/
theorem section_numbers_outline_nested :
    Document.new id "## A\n### B\n## C" =
        .ok ⟨["## 1. A", "### 1.1. B", "## 2. C"], [(1, "1. A"), (2, "1.1. B"), (1, "2. C")],
          [("#A", "1. A"), ("#B", "1.1. B"), ("#C", "2. C")]⟩ ∧
      nestedFrom 0 (headerLevels (pySplit "## A\n### B\n## C" '\n')) = true ∧
      ∃ ns : List String, ["## 1. A", "### 1.1. B", "## 2. C"] =
        renumberLines (pySplit "## A\n### B\n## C" '\n') ns ∧ ns.Nodup :=
  have hd : Document.new id "## A\n### B\n## C" =
      .ok ⟨["## 1. A", "### 1.1. B", "## 2. C"], [(1, "1. A"), (2, "1.1. B"), (1, "2. C")],
        [("#A", "1. A"), ("#B", "1.1. B"), ("#C", "2. C")]⟩ := rfl
  have hn : nestedFrom 0 (headerLevels (pySplit "## A\n### B\n## C" '\n')) = true := by decide
  let ⟨ns, _, hl, _, hnest⟩ := (section_numbers_outline id "## A\n### B\n## C").2 _ hd
  ⟨hd, hn, ns, hl, (hnest hn).2.1⟩

/-- A header of eight `#`s raises `IndexError`, a first header below the top
    level gets an empty number, and a header that skips a level gets the
    number of the header before it. -/
theorem section_numbers_break :
    Document.new id "######## Deep" = .error .index ∧
      (Document.new id "### A").map (·.sections) = .ok [(2, " A")] ∧
      (Document.new id "## A\n#### B").map (·.sections) = .ok [(1, "1. A"), (3, "1. B")] :=
  ⟨rfl, rfl, rfl⟩

end GqlPython
