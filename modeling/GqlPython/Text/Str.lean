import Mathlib.Data.String.Basic

/-! # Python text primitives used by `gql.py`

    The helpers of `gql.py` and `run.py` manipulate Python `str` values with a
    handful of built-ins: `str.strip`, `str.join`, slicing `line[:1]`,
    `str.startswith`, `str.replace`, text-mode file iteration and `print`, and
    `posixpath.splitext` / `posixpath.join`. This module models each of them as a
    function on `String`, written over the character list `String.data` so that
    proofs can work with `List` lemmas.

    The file system is keyed by the path text. `abspath` is modelled in
    `GqlPython.Text.Path`, and `GQL.copy_tsv` applies it; the model of
    `GQL.copy_file` takes its paths as already absolute and normalised, where
    `abspath` would leave them as they are.
-/

namespace GqlPython

/-! ### Whitespace and blank lines -/

/-- The characters for which Python's `str.isspace()` holds: the ASCII
    whitespace and separator controls and the Unicode space separators. -/
def isPySpace (c : Char) : Bool :=
  let n := c.toNat
  n = 0x20 || (0x09 ≤ n && n ≤ 0x0d) || (0x1c ≤ n && n ≤ 0x1f) || n = 0x85 || n = 0xa0 ||
  n = 0x1680 || (0x2000 ≤ n && n ≤ 0x200a) || n = 0x2028 || n = 0x2029 || n = 0x202f ||
  n = 0x205f || n = 0x3000

/-- `s.strip()` on the character list. -/
def pyStrip (cs : List Char) : List Char :=
  ((cs.dropWhile isPySpace).reverse.dropWhile isPySpace).reverse

/-- `not line.strip()`: the line has only whitespace. -/
def isBlank (line : String) : Bool := line.data.all isPySpace

theorem toNat_of_isDigit {c : Char} (h : c.isDigit) : 48 ≤ c.toNat ∧ c.toNat ≤ 57 := by
  simp only [Char.isDigit, Bool.and_eq_true, decide_eq_true_eq, Char.le_def] at h
  exact ⟨h.1, h.2⟩

theorem isPySpace_of_isDigit {c : Char} (h : c.isDigit) : isPySpace c = false := by
  have := toNat_of_isDigit h
  simp only [isPySpace, Bool.or_eq_false_iff, decide_eq_false_iff_not, Bool.and_eq_false_iff]
  omega

theorem pyStrip_of_forall {cs : List Char} (h : ∀ c ∈ cs, isPySpace c = false) :
    pyStrip cs = cs := by
  have hd : ∀ l : List Char, (∀ c ∈ l, isPySpace c = false) → l.dropWhile isPySpace = l
    | [], _ => rfl
    | c :: l, h => by simp [List.dropWhile_cons, h c (List.mem_cons_self _ _)]
  rw [pyStrip, hd cs h, hd _ (by simpa using h), List.reverse_reverse]

/-- `s.strip()` is empty exactly when `s` is all whitespace. -/
theorem pyStrip_eq_nil_iff (cs : List Char) : pyStrip cs = [] ↔ cs.all isPySpace = true := by
  have hd : ∀ l : List Char, (∀ c ∈ l.dropWhile isPySpace, isPySpace c) → l.dropWhile isPySpace = [] :=
    fun l h => by_contra fun hne => by
      simpa [h _ (List.head_mem hne)] using List.head_dropWhile_not isPySpace l hne
  simp only [pyStrip, List.reverse_eq_nil_iff, List.dropWhile_eq_nil_iff, List.mem_reverse,
    List.all_eq_true]
  exact ⟨fun h => List.dropWhile_eq_nil_iff.1 (hd _ h),
    fun h c hc => by rw [List.dropWhile_eq_nil_iff.2 h] at hc; cases hc⟩

/-- `isBlank` is `not line.strip()`. -/
theorem isBlank_iff_pyStrip (line : String) : isBlank line = true ↔ pyStrip line.data = [] := by
  rw [isBlank, pyStrip_eq_nil_iff]

/-! ### `str.join`, `print` and line iteration -/

/-- `sep.join(parts)`. -/
def pyJoin (sep : String) : List String → String
  | [] => ""
  | [a] => a
  | a :: as => a ++ sep ++ pyJoin sep as

/-- The text `print(line, file=fd)` writes for each line, one after the other. -/
def printLines (lines : List String) : String :=
  String.join (lines.map (· ++ "\n"))

/-- Universal-newlines translation of text-mode reading: `\r\n` and a lone `\r`
    both read as `\n`. -/
def translateNewlines : List Char → List Char
  | '\r' :: '\n' :: cs => '\n' :: translateNewlines cs
  | '\r' :: cs => '\n' :: translateNewlines cs
  | c :: cs => c :: translateNewlines cs
  | [] => []

/-- Splitting after each `\n`, keeping it: the line `acc` read so far is
    reversed. -/
def splitLines (acc : List Char) : List Char → List String
  | [] => if acc = [] then [] else [⟨acc.reverse⟩]
  | c :: cs => if c = '\n' then ⟨(c :: acc).reverse⟩ :: splitLines [] cs
    else splitLines (c :: acc) cs

/-- The lines `for line in open(path)` yields for a file with this content. -/
def readLines (content : String) : List String :=
  splitLines [] (translateNewlines content.data)

theorem translateNewlines_of_not_mem : ∀ cs : List Char, '\r' ∉ cs → translateNewlines cs = cs
  | [], _ => rfl
  | c :: cs, h => by
    have hc : c ≠ '\r' := fun e => h (e ▸ List.mem_cons_self _ _)
    rw [translateNewlines.eq_3 _ _ (fun _ e _ => hc e) hc,
      translateNewlines_of_not_mem cs (fun h' => h (List.mem_cons_of_mem _ h'))]

theorem splitLines_append (acc l rest : List Char) (hl : '\n' ∉ l) :
    splitLines acc (l ++ '\n' :: rest) = ⟨acc.reverse ++ l ++ ['\n']⟩ :: splitLines [] rest := by
  induction l generalizing acc with
  | nil => simp [splitLines]
  | cons c l ih =>
    have hc : c ≠ '\n' := fun e => hl (e ▸ List.mem_cons_self _ _)
    rw [List.cons_append, splitLines, if_neg hc, ih _ (fun h => hl (List.mem_cons_of_mem _ h))]
    simp

/-- **Reading back printed lines**: each line comes back with its `\n`. -/
theorem readLines_printLines (ls : List String) (h : ∀ l ∈ ls, '\n' ∉ l.data ∧ '\r' ∉ l.data) :
    readLines (printLines ls) = ls.map (· ++ "\n") := by
  have hdata : (printLines ls).data = (ls.map fun l => l.data ++ ['\n']).flatten := by
    simp [printLines, Function.comp_def]
  rw [readLines, hdata, translateNewlines_of_not_mem _ (by simp; exact fun l hl => (h l hl).2)]
  clear hdata
  induction ls with
  | nil => rfl
  | cons l ls ih =>
    simp only [List.map_cons, List.flatten_cons, List.append_assoc, List.singleton_append]
    rw [splitLines_append _ _ _ (h l (List.mem_cons_self _ _)).1,
      ih (fun l' hl' => h l' (List.mem_cons_of_mem _ hl'))]
    simp [String.ext_iff]

theorem pyJoin_cons_cons (sep a b : String) (as : List String) :
    pyJoin sep (a :: b :: as) = a ++ sep ++ pyJoin sep (b :: as) := rfl

@[simp] theorem isBlank_append (a b : String) : isBlank (a ++ b) = (isBlank a && isBlank b) := by
  simp [isBlank]

/-- Every character of a join is the separator's or a part's. -/
theorem mem_pyJoin {sep : String} {c : Char} :
    ∀ {fs : List String}, c ∈ (pyJoin sep fs).data → c ∈ sep.data ∨ ∃ f ∈ fs, c ∈ f.data
  | [], h => by simp [pyJoin] at h
  | [f], h => .inr ⟨f, List.mem_singleton_self _, h⟩
  | f :: g :: fs, h => by
    simp only [pyJoin, String.data_append, List.mem_append] at h
    rcases h with (h | h) | h
    · exact .inr ⟨f, List.mem_cons_self _ _, h⟩
    · exact .inl h
    · rcases mem_pyJoin h with h | ⟨f', hf', h⟩
      · exact .inl h
      · exact .inr ⟨f', List.mem_cons_of_mem _ hf', h⟩

/-- A tab-joined line is blank exactly when every part is. -/
theorem isBlank_pyJoin_tab : ∀ fs : List String, isBlank (pyJoin "\t" fs) = fs.all isBlank
  | [] => rfl
  | [f] => by simp [pyJoin]
  | f :: g :: fs => by
    rw [pyJoin_cons_cons, isBlank_append, isBlank_append, isBlank_pyJoin_tab (g :: fs)]
    simp [show isBlank "\t" = true from rfl]

/-- A tab-joined line starts as its first part does, when that part is not empty. -/
theorem take_one_pyJoin_tab {f : String} {fs : List String}
    (h : (pyJoin "\t" (f :: fs)).data.take 1 = ['#']) : f.data.take 1 = ['#'] := by
  cases fs with
  | nil => exact h
  | cons g fs =>
    simp only [pyJoin, String.data_append] at h
    cases hf : f.data <;> simp_all

/-- `text.split(sep)` for a one-character `sep`; `acc` is the part read since
    the last separator, reversed. -/
def splitSep (sep : Char) (acc : List Char) : List Char → List String
  | [] => [⟨acc.reverse⟩]
  | c :: cs => if c = sep then ⟨acc.reverse⟩ :: splitSep sep [] cs else splitSep sep (c :: acc) cs

/-- `text.split(sep)` for a one-character `sep`. -/
def pySplit (text : String) (sep : Char) : List String := splitSep sep [] text.data

example : pySplit "# a\n\nb\n" '\n' = ["# a", "", "b", ""] := by decide

theorem splitSep_append_sep (sep : Char) (b : List Char) :
    ∀ (acc a : List Char), splitSep sep acc (a ++ sep :: b) = splitSep sep acc a ++ splitSep sep [] b
  | acc, [] => by simp [splitSep]
  | acc, c :: a => by
    simp only [List.cons_append, splitSep]
    split
    · exact congrArg (_ :: ·) (splitSep_append_sep sep b [] a)
    · exact splitSep_append_sep sep b _ a

theorem splitSep_of_not_mem (sep : Char) :
    ∀ (acc cs : List Char), sep ∉ cs → splitSep sep acc cs = [⟨acc.reverse ++ cs⟩]
  | acc, [], _ => by simp [splitSep]
  | acc, c :: cs, h => by
    rw [List.mem_cons, not_or] at h
    rw [splitSep, if_neg (Ne.symm h.1), splitSep_of_not_mem sep _ cs h.2]
    simp

/-- Two texts that start with a part free of `c` followed by `c` split at that
    `c` in the same place. -/
theorem append_cons_cancel {c : Char} : ∀ {p q r s : List Char}, c ∉ p → c ∉ q →
    p ++ c :: r = q ++ c :: s → p = q ∧ r = s
  | [], [], _, _, _, _, h => ⟨rfl, (List.cons.inj h).2⟩
  | [], d :: q, _, _, _, hq, h => absurd (List.cons.inj h).1 fun e => hq (e ▸ List.mem_cons_self _ _)
  | d :: p, [], _, _, hp, _, h => absurd (List.cons.inj h).1 fun e => hp (e ▸ List.mem_cons_self _ _)
  | d :: p, e :: q, _, _, hp, hq, h => by
    obtain ⟨rfl, hpq⟩ := List.cons.inj h
    obtain ⟨rfl, rfl⟩ := append_cons_cancel (fun h' => hp (List.mem_cons_of_mem _ h'))
      (fun h' => hq (List.mem_cons_of_mem _ h')) hpq
    exact ⟨rfl, rfl⟩

/-! ### Dictionaries -/

/-- `d[k] = v` on a `dict` kept in iteration order: an existing key keeps its
    place. -/
def dictSet (d : List (String × String)) (k v : String) : List (String × String) :=
  if d.any (·.1 = k) then d.map fun kv => if kv.1 = k then (k, v) else kv else d ++ [(k, v)]

theorem lookup_map_set (k v a : String) : ∀ d : List (String × String),
    (d.map fun kv => if kv.1 = k then (k, v) else kv).lookup a =
      if a = k then (if d.any (·.1 = k) then some v else none) else d.lookup a
  | [] => by simp
  | (k', v') :: d => by
    have ih := lookup_map_set k v a d
    by_cases ha : a = k'
    · subst ha
      by_cases hk : a = k
      · subst hk; simp
      · simp [hk]
    · have hb : (a == k') = false := beq_eq_false_iff_ne.2 ha
      by_cases hk : k' = k
      · subst hk; simp [List.lookup_cons, hb, ha, ih]
      · have hd : decide (k' = k) = false := decide_eq_false hk
        simp only [List.map_cons, List.any_cons, hd, Bool.false_or, if_neg hk, List.lookup_cons, hb, ih]

/-- `d[k] = v` followed by `d[a]`. -/
theorem lookup_dictSet (d : List (String × String)) (k v a : String) :
    (dictSet d k v).lookup a = if a = k then some v else d.lookup a := by
  unfold dictSet
  split
  · next h => rw [lookup_map_set]; simp [h]
  · next h =>
    rw [List.lookup_append]
    by_cases ha : a = k
    · subst ha
      have : d.lookup a = none := List.lookup_eq_none_iff.2 fun p hp =>
        bne_iff_ne.2 fun e => h (List.any_eq_true.2 ⟨p, hp, by simp [e]⟩)
      simp [this]
    · have hb : (a == k) = false := beq_eq_false_iff_ne.2 ha
      cases d.lookup a <;> simp [List.lookup_cons, hb, ha]

/-! ### Prefixes, suffixes and replacement -/

/-- `s.startswith(pre)`. -/
def startsWith (s pre : String) : Bool := pre.data.isPrefixOf s.data

theorem startsWith_hash_iff (s : String) : startsWith s "#" = true ↔ s.data.take 1 = ['#'] := by
  cases h : s.data with
  | nil => simp [startsWith, h]
  | cons c cs => simp [startsWith, h, List.isPrefixOf]; exact eq_comm

/-- `s.endswith(suf)`. -/
def endsWith (s suf : String) : Bool := suf.data.isSuffixOf s.data

/-- `s.replace(a, b)` for one-character `a` and `b`. -/
def replaceChar (s : String) (a b : Char) : String :=
  ⟨s.data.map fun c => if c = a then b else c⟩

theorem replaceChar_append (s t : String) (a b : Char) :
    replaceChar (s ++ t) a b = replaceChar s a b ++ replaceChar t a b := by
  simp [replaceChar, String.ext_iff]

theorem startsWith_eq_false_of_head {p pre : String} {c d : Char} (hp : p.data.head? = some c)
    (hpre : pre.data.head? = some d) (hcd : c ≠ d) : startsWith p pre = false := by
  unfold startsWith
  cases hq : pre.data with
  | nil => simp [hq] at hpre
  | cons e es =>
    cases hs : p.data with
    | nil => simp [hs] at hp
    | cons f fs =>
      simp only [hq, hs, List.head?_cons, Option.some.injEq] at hpre hp
      subst hpre hp
      simp [List.isPrefixOf, hcd.symm]

/-! ### `posixpath` -/

/-- `posixpath.join(a, b)`: an absolute `b` replaces `a`; otherwise a `/` is put
    between them unless `a` is empty or already ends with one. -/
def pathJoin (a b : String) : String :=
  if startsWith b "/" then b
  else if a = "" || endsWith a "/" then a ++ b
  else a ++ "/" ++ b

/-- A join onto a path starting with `/` starts with `/`. -/
theorem pathJoin_head {a b : String} (ha : a.data.head? = some '/') :
    (pathJoin a b).data.head? = some '/' := by
  unfold pathJoin startsWith
  split
  · next hb =>
    obtain ⟨t, ht⟩ := List.isPrefixOf_iff_prefix.1 hb
    simp [← ht]
  · split <;> cases h : a.data <;> simp_all

/-- Appending to a relative `b` appends to the join. -/
theorem pathJoin_append {a b : String} (t : String) (hb : b.data.head? ≠ some '/')
    (hne : b.data ≠ []) : pathJoin a (b ++ t) = pathJoin a b ++ t := by
  have hs : ∀ u : String, u.data ≠ [] → u.data.head? ≠ some '/' → startsWith u "/" = false := by
    intro u hu hh
    cases hd : u.data with
    | nil => exact absurd hd hu
    | cons c cs =>
      simp only [hd, List.head?_cons, ne_eq, Option.some.injEq] at hh
      simp [startsWith, List.isPrefixOf, hd, Ne.symm hh]
  have hbt : (b ++ t).data.head? ≠ some '/' := by
    cases hd : b.data <;> simp_all
  rw [pathJoin, pathJoin, hs _ (by simp [hne]) hbt, hs b hne hb]
  simp only [Bool.false_eq_true, if_false]
  split <;> simp [String.ext_iff]

/-- The index just after the last `/`, i.e. where the last component starts. -/
def lastSepEnd (cs : List Char) : Nat :=
  match cs.reverse.findIdx? (· = '/') with
  | some i => cs.length - i
  | none => 0

/-- `posixpath.basename(p)`: the last path component. -/
def basename (p : String) : String := ⟨p.data.drop (lastSepEnd p.data)⟩

/-- `posixpath.splitext(p)`: the extension is the text from the last `.` of the
    last path component, unless every character of the component before that
    `.` is itself a `.` (so `.tsv` and `..tsv` have no extension). -/
def splitext (p : String) : String × String :=
  let cs := p.data
  let start := lastSepEnd cs
  match cs.reverse.findIdx? (· = '.') with
  | some i =>
    let dot := cs.length - 1 - i
    if start ≤ dot && ((cs.drop start).take (dot - start)).any (· ≠ '.') then
      (⟨cs.take dot⟩, ⟨cs.drop dot⟩)
    else (p, "")
  | none => (p, "")

end GqlPython
