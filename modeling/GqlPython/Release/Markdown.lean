import GqlPython.Release.Document
import GqlPython.Text.Regex

/-! # `release.py`: the markdown rendering of the README

    `Document.to_markdown` writes the numbered README back as markdown. Lines
    starting with `##` are kept as they are, and just before the first of them
    a table of contents is inserted, one entry per header linking to the
    markdown anchor of its numbered title. Every other line goes through two
    substitutions: `::x::` becomes `` `x` ``, and each link `[text](target)` is
    passed to `__generate_markdown_link`, which sends an in-page target `#a`
    through the anchor map to the anchor of a numbered header and raises
    `KeyError` for an anchor that is not in the map.

    What the rendering guarantees, for every README:
    * the table of contents comes exactly once, just before the first `##`
      line, and not at all when there is none (`toMarkdown_toc`);
    * an in-page link to the anchor of a header's title is written with the
      target of that header's entry in the table of contents; when several
      titles have the anchor, with the last one's (`markdown_link_resolves`);
    * `to_markdown` raises exactly when a line that is not a header links to
      an in-page anchor that no header's title has
      (`markdown_ok_iff_links_resolve`);
    * a line with no `::x::` span and no in-page link is written unchanged
      (`markdown_keeps_plain_line`).
-/

namespace GqlPython

/-! ### The patterns -/

/-- The rest of the lazy group of `::(.+?)::` after its first character: the
    shortest run without `\n` that `::` follows. -/
def lazyCode : List Char → Option (List Char)
  | ':' :: ':' :: _ => some []
  | c :: cs => if c = '\n' then none else (lazyCode cs).map (c :: ·)
  | [] => none

/-- `re.match(r'::(.+?)::', s)`: the group and the length of the match. -/
def codeMatch (s : List Char) : Option (List Char × Nat) :=
  match s with
  | ':' :: ':' :: c :: cs =>
    if c = '\n' then none else (lazyCode cs).map fun g => (c :: g, g.length + 5)
  | _ => none

theorem codeMatch_pos {s g : List Char} {n : Nat} (h : codeMatch s = some (g, n)) : 0 < n := by
  unfold codeMatch at h
  split at h
  · split at h
    · cases h
    · obtain ⟨_, -, h⟩ := Option.map_eq_some'.1 h
      cases h; omega
  · cases h

/-- The pattern `::(.+?)::`. -/
def codePattern : Matcher (List Char) := ⟨fun _ => codeMatch, codeMatch_pos⟩

/-- Its template `` `\1` ``. -/
def codeSpan (g : List Char) : List Char := '\x60' :: g ++ ['\x60']

example : codePattern.subWith codeSpan "a ::b:: ::c".data = "a \x60b\x60 ::c".data := by decide

/-- `re.match(r'\[([^]]*)\]\(([^)]*)\)', s)`: the link text and target, and the
    length of the match. -/
def linkMatch (s : List Char) : Option ((List Char × List Char) × Nat) :=
  match s with
  | '[' :: cs =>
    match cs.dropWhile (· ≠ ']') with
    | ']' :: '(' :: ds =>
      match ds.dropWhile (· ≠ ')') with
      | ')' :: _ =>
        some ((cs.takeWhile (· ≠ ']'), ds.takeWhile (· ≠ ')')),
          (cs.takeWhile (· ≠ ']')).length + (ds.takeWhile (· ≠ ')')).length + 4)
      | _ => none
    | _ => none
  | _ => none

/-- A link match is `[`, the text, `](`, the target and `)`. -/
theorem linkMatch_text {s : List Char} {g : List Char × List Char} {n : Nat}
    (h : linkMatch s = some (g, n)) : 0 < n ∧ s.take n = '[' :: g.1 ++ ']' :: '(' :: g.2 ++ [')'] := by
  unfold linkMatch at h
  split at h <;> try cases h
  next cs =>
  split at h <;> try cases h
  next ds hcs =>
  split at h <;> try cases h
  next rest hds =>
  refine ⟨by omega, ?_⟩
  have e1 := List.takeWhile_append_dropWhile (fun c => decide (c ≠ ']')) cs
  have e2 := List.takeWhile_append_dropWhile (fun c => decide (c ≠ ')')) ds
  rw [hds] at e2
  rw [hcs, ← e2] at e1
  generalize List.takeWhile (fun c => decide (c ≠ ']')) cs = A at e1 ⊢
  generalize List.takeWhile (fun c => decide (c ≠ ')')) ds = B at e1 ⊢
  subst e1
  rw [show A.length + B.length + 4 = A.length + (B.length + 3) + 1 by omega, List.take_succ_cons,
    List.take_append]
  simp [List.take_append]

/-- The pattern `\[([^]]*)\]\(([^)]*)\)`. -/
def linkPattern : Matcher (List Char × List Char) :=
  ⟨fun _ => linkMatch, fun h => (linkMatch_text h).1⟩

/-- Each link found is `[text](target)` in the line. -/
theorem linkPattern_hit_text {s : List Char} {x : (List Char × List Char) × List Char}
    (hx : x ∈ linkPattern.hits s) : x.2 = '[' :: x.1.1 ++ ']' :: '(' :: x.1.2 ++ [')'] := by
  obtain ⟨p, t, n, hr, ht⟩ := linkPattern.run_of_mem_hits hx
  rw [ht]
  exact (linkMatch_text hr).2

/-- A code span starts with `:`. -/
theorem codeMatch_head {s g : List Char} {n : Nat} (h : codeMatch s = some (g, n)) :
    s.head? = some ':' := by
  unfold codeMatch at h
  split at h
  · rfl
  · cases h

/-- A line `[text](target)`, with no `]` in the text and no `)` in the target,
    is one link match covering the whole line. -/
theorem linkMatch_link {t a : List Char} (ht : ']' ∉ t) (ha : ')' ∉ a) :
    linkMatch ('[' :: (t ++ ']' :: '(' :: (a ++ [')']))) =
      some ((t, a), t.length + a.length + 4) := by
  have ht' : ∀ c ∈ t, decide (c ≠ ']') = true := fun c hc => decide_eq_true fun h => ht (h ▸ hc)
  have ha' : ∀ c ∈ a, decide (c ≠ ')') = true := fun c hc => decide_eq_true fun h => ha (h ▸ hc)
  have h1 : (t ++ ']' :: '(' :: (a ++ [')'])).dropWhile (· ≠ ']') = ']' :: '(' :: (a ++ [')']) := by
    rw [List.dropWhile_append_of_pos ht', List.dropWhile_cons_of_neg (by decide)]
  have h2 : (t ++ ']' :: '(' :: (a ++ [')'])).takeWhile (· ≠ ']') = t := by
    rw [List.takeWhile_append_of_pos ht', List.takeWhile_cons_of_neg (by decide), List.append_nil]
  have h3 : (a ++ [')']).dropWhile (· ≠ ')') = [')'] := by
    rw [List.dropWhile_append_of_pos ha', List.dropWhile_cons_of_neg (by decide)]
  have h4 : (a ++ [')']).takeWhile (· ≠ ')') = a := by
    rw [List.takeWhile_append_of_pos ha', List.takeWhile_cons_of_neg (by decide), List.append_nil]
  simp only [linkMatch, h1, h3, h2, h4]

/-- `re.sub` of the link pattern on such a line is `repl` of its text and target. -/
theorem linkPattern_sub_link {ε : Type} (repl : List Char × List Char → Except ε (List Char))
    {t a : List Char} (ht : ']' ∉ t) (ha : ')' ∉ a) :
    linkPattern.sub repl ('[' :: (t ++ ']' :: '(' :: (a ++ [')']))) = repl (t, a) := by
  apply linkPattern.sub_of_run_length
  have hl : ('[' :: (t ++ ']' :: '(' :: (a ++ [')']))).length = t.length + a.length + 4 := by
    simp only [List.length_cons, List.length_append, List.length_singleton, List.length_nil]
    omega
  rw [hl]
  exact linkMatch_link ht ha

/-! ### Links -/

/-- `KeyError(key)`, raised by the lookup of a key a `dict` does not have. -/
structure KeyError where
  key : String
  deriving DecidableEq, Repr

/-- `self.__anchor_map[link]`. -/
def anchorLookup (anchorMap : List (String × String)) (link : String) : Except KeyError String :=
  match anchorMap.lookup link with
  | some h => .ok h
  | none => .error ⟨link⟩

section
variable (lower : String → String)

/-- `Document.__generate_markdown_link(link)`: an in-page link goes through the
    anchor map to the anchor of a numbered header; any other link is kept. -/
def generateMarkdownLink (anchorMap : List (String × String)) (link : String) :
    Except KeyError String :=
  if startsWith link "#" then toMarkdownHashtag lower <$> anchorLookup anchorMap link
  else .ok link

/-- The callable `lambda m: f'[{m[1]}]({self.__generate_markdown_link(m[2])})'`. -/
def markdownLinkRepl (anchorMap : List (String × String)) (g : List Char × List Char) :
    Except KeyError (List Char) :=
  (fun t : String => '[' :: g.1 ++ ']' :: '(' :: t.data ++ [')']) <$>
    generateMarkdownLink lower anchorMap ⟨g.2⟩

/-- A line of `to_markdown` that does not start with `##`: the code spans, then
    the links. -/
def markdownLine (anchorMap : List (String × String)) (line : String) : Except KeyError String :=
  String.mk <$> linkPattern.sub (markdownLinkRepl lower anchorMap) (codePattern.subWith codeSpan line.data)

example : markdownLine id [("#a", "1. A")] "see [x](#a) and [y](http://z) ::c::" =
    .ok "see [x](#1-A) and [y](http://z) \x60c\x60" := rfl

/-! ### `to_markdown` -/

/-- An entry of the table of contents:
    `' ' * 2 * (level-1) + f'* [{title}]({hashtag(title)})'`. -/
def tocEntry (s : Nat × String) : String :=
  ⟨List.replicate (2 * (s.1 - 1)) ' '⟩ ++ "* [" ++ s.2 ++ "](" ++ toMarkdownHashtag lower s.2 ++ ")"

/-- The table of contents `to_markdown` inserts. -/
def tocLines (sections : List (Nat × String)) : List String :=
  ["## Table of contents", ""] ++ sections.map (tocEntry lower) ++ [""]

/-- The loop of `to_markdown` over `__lines`; `generatedToc` is `generated_toc`. -/
def markdownLines (d : Document) (generatedToc : Bool) : List String → Except KeyError (List String)
  | [] => .ok []
  | line :: rest =>
    if startsWith line "##" then
      ((if generatedToc then [] else tocLines lower d.sections) ++ line :: ·) <$>
        markdownLines d true rest
    else do
      let out ← markdownLine lower d.anchorMap line
      (out :: ·) <$> markdownLines d generatedToc rest

/-- `Document.to_markdown()`. -/
def Document.toMarkdown (d : Document) : Except KeyError String :=
  pyJoin "\n" <$> markdownLines lower d false d.lines

/-- How a line is written once the table of contents is out: a `##` line as it
    is, any other line by `markdownLine`. -/
def afterToc (anchorMap : List (String × String)) (line : String) : Except KeyError String :=
  if startsWith line "##" then .ok line else markdownLine lower anchorMap line

/-- The markdown anchors of the headers' titles, in order: the keys
    `__assign_section_numbers` gives the anchor map. -/
def titleAnchors (lines : List String) : List String :=
  (headerMatches lines).map fun m => toMarkdownHashtag lower m.2

/-! ### The anchor map -/

theorem headerMatch_some {line m1 m2 : String} (h : headerMatch line = some (m1, m2)) :
    startsWith line "##" = true ∧ m1.data.head? = some '#' := by
  unfold headerMatch at h
  split at h
  · next rest hl =>
    split at h
    · next a t title hw _ =>
      cases h
      have hmem : a ∈ rest.takeWhile (· = '#') := hw ▸ List.mem_cons_self a t
      have ha := List.mem_takeWhile_imp hmem
      replace ha : a = '#' := of_decide_eq_true ha
      have hr := List.takeWhile_append_dropWhile (· = '#') rest
      rw [hw, ha] at hr
      refine ⟨?_, by rw [hw, ha]; rfl⟩
      rw [startsWith, hl, ← hr]
      simp [List.isPrefixOf]
    · cases h
  · cases h

theorem startsWith_header_line {m1 : String} (h : m1.data.head? = some '#') (t : String) :
    startsWith ("#" ++ m1 ++ " " ++ t) "##" = true := by
  cases hm : m1.data with
  | nil => simp [hm] at h
  | cons c cs =>
    simp only [hm, List.head?_cons, Option.some.injEq] at h
    subst h
    simp [startsWith, hm, List.isPrefixOf]

/-- **The loop builds the anchor map of the titles.** After the lines, the
    anchor map sends an anchor to the numbered header of the last title with
    that anchor, and the lines that do not start with `##` are those of the
    text. -/
theorem numberLines_spec : ∀ (nums : List Nat) (d d' : Document) (lines A : List String),
    numberLines lower nums d lines = .ok d' → A.length = d.sections.length →
    (∀ a, d.anchorMap.lookup a = ((A.zip (d.sections.map Prod.snd)).reverse).lookup a) →
    (A ++ titleAnchors lower lines).length = d'.sections.length ∧
    (∀ a, d'.anchorMap.lookup a =
      (((A ++ titleAnchors lower lines).zip (d'.sections.map Prod.snd)).reverse).lookup a) ∧
    d'.lines.filter (fun l => !startsWith l "##") =
      d.lines.filter (fun l => !startsWith l "##") ++ lines.filter (fun l => !startsWith l "##")
  | nums, d, d', [], A, h, hA, hL => by
    cases h
    simp only [titleAnchors, headerMatches, List.filterMap_nil, List.map_nil, List.append_nil,
      List.filter_nil, and_true]
    exact ⟨hA, hL⟩
  | nums, d, d', line :: rest, A, h, hA, hL => by
    rcases numberLines_cons_inv lower h with ⟨hm, h⟩ | ⟨m1, m2, nums', hm, h⟩
    · have hT : titleAnchors lower (line :: rest) = titleAnchors lower rest := by
        simp only [titleAnchors, headerMatches_of_none rest hm]
      obtain ⟨h1, h2, h3⟩ := numberLines_spec nums _ d' rest A h hA hL
      refine ⟨by rw [hT]; exact h1, by rw [hT]; exact h2, ?_⟩
      rw [h3, List.filter_append, List.append_assoc, ← List.filter_append]
      rfl
    · have hT : titleAnchors lower (line :: rest) =
          toMarkdownHashtag lower m2 :: titleAnchors lower rest := by
        simp only [titleAnchors, headerMatches_of_some rest hm, List.map_cons]
      obtain ⟨hs, hm1⟩ := headerMatch_some hm
      obtain ⟨h1, h2, h3⟩ := numberLines_spec nums' _ d' rest (A ++ [toMarkdownHashtag lower m2]) h
        (by simp [hA]) fun a => by
          rw [lookup_dictSet, hL, List.map_append, List.zip_append (by simpa using hA)]
          by_cases ha : a = toMarkdownHashtag lower m2
          · subst ha; simp
          · simp [List.lookup_cons, beq_eq_false_iff_ne.2 ha, ha]
      rw [hT, ← List.singleton_append, ← List.append_assoc]
      refine ⟨h1, h2, ?_⟩
      have hq1 : (d.lines ++ ["#" ++ m1 ++ " " ++ (sectionText nums' ++ " " ++ m2)]).filter
          (fun l => !startsWith l "##") = d.lines.filter (fun l => !startsWith l "##") := by
        simp [startsWith_header_line hm1]
      have hq2 : (line :: rest).filter (fun l => !startsWith l "##") =
          rest.filter (fun l => !startsWith l "##") := by simp [hs]
      rw [h3]
      dsimp only
      rw [hq1, hq2]

theorem startsWith_toMarkdownHashtag (t : String) : startsWith (toMarkdownHashtag lower t) "#" = true := by
  simp [startsWith, toMarkdownHashtag, List.isPrefixOf]

/-- What `Document(text)` leaves: the anchor map sends an anchor to the
    numbered header of the last title with that anchor, and the lines that do
    not start with `##` are those of the text. -/
theorem document_anchors {text : String} {d : Document} (h : Document.new lower text = .ok d) :
    (titleAnchors lower (pySplit text '\n')).length = d.sections.length ∧
    (∀ a, d.anchorMap.lookup a =
      (((titleAnchors lower (pySplit text '\n')).zip (d.sections.map Prod.snd)).reverse).lookup a) ∧
    d.lines.filter (fun l => !startsWith l "##") =
      (pySplit text '\n').filter (fun l => !startsWith l "##") :=
  numberLines_spec lower _ _ d _ [] h rfl (fun _ => rfl)

/-- The anchor map sends a title's anchor to the numbered header of that
    title, when no later title has the same anchor. -/
theorem anchorMap_lookup_last {text : String} {d : Document} (h : Document.new lower text = .ok d)
    {pre post : List (String × String)} {x : String × String}
    (hx : (titleAnchors lower (pySplit text '\n')).zip (d.sections.map Prod.snd) = pre ++ x :: post)
    (hlast : ∀ y ∈ post, y.1 ≠ x.1) : d.anchorMap.lookup x.1 = some x.2 := by
  obtain ⟨-, hL, -⟩ := document_anchors lower h
  have hpost : post.reverse.lookup x.1 = none :=
    List.lookup_eq_none_iff.2 fun p hp => by simpa using (hlast p (List.mem_reverse.1 hp)).symm
  rw [hL, hx, List.reverse_append, List.reverse_cons, List.append_assoc, List.lookup_append, hpost,
    Option.none_or]
  exact List.lookup_cons_self

/-- A title's anchor is an in-page link. -/
theorem startsWith_titleAnchor {lines : List String} {A : List String} {pre post : List (String × String)}
    {x : String × String} (hx : (titleAnchors lower lines).zip A = pre ++ x :: post) :
    startsWith x.1 "#" = true := by
  have hmem : x.1 ∈ titleAnchors lower lines :=
    (List.of_mem_zip (hx ▸ List.mem_append_right pre (List.mem_cons_self x post))).1
  obtain ⟨m, -, hm⟩ := List.mem_map.1 hmem
  rw [← hm, startsWith_toMarkdownHashtag]

/-- **An in-page link goes where the table of contents goes.** A link to the
    anchor of a header's title is written with the anchor of that header's
    numbered title, which its entry in the table of contents links to, as long
    as no later title has the same anchor; of titles with one anchor, the last
    one wins. -/
theorem markdown_link_resolves {text : String} {d : Document} (h : Document.new lower text = .ok d)
    {pre post : List (String × String)} {x : String × String}
    (hx : (titleAnchors lower (pySplit text '\n')).zip (d.sections.map Prod.snd) = pre ++ x :: post)
    (hlast : ∀ y ∈ post, y.1 ≠ x.1) :
    generateMarkdownLink lower d.anchorMap x.1 = .ok (toMarkdownHashtag lower x.2) := by
  rw [generateMarkdownLink, if_pos (startsWith_titleAnchor lower hx), anchorLookup,
    anchorMap_lookup_last lower h hx hlast]
  rfl

/-- In a README with headers `A` and `B`, a link to `#A` goes to `#1-A`. -/
theorem markdown_link_resolves_first :
    Document.new id "## A\n[a](#A)\n## B" =
        .ok ⟨["## 1. A", "[a](#A)", "## 2. B"], [(1, "1. A"), (1, "2. B")],
          [("#A", "1. A"), ("#B", "2. B")]⟩ ∧
      generateMarkdownLink id [("#A", "1. A"), ("#B", "2. B")] "#A" = .ok "#1-A" :=
  have hd : Document.new id "## A\n[a](#A)\n## B" =
      .ok ⟨["## 1. A", "[a](#A)", "## 2. B"], [(1, "1. A"), (1, "2. B")],
        [("#A", "1. A"), ("#B", "2. B")]⟩ := rfl
  ⟨hd, markdown_link_resolves id hd
    (show _ = [] ++ ("#A", "1. A") :: [("#B", "2. B")] from rfl) (by decide)⟩

/-! ### When the rendering raises -/

theorem generateMarkdownLink_ok_iff (am : List (String × String)) (link : String) :
    (∃ r, generateMarkdownLink lower am link = .ok r) ↔
      (startsWith link "#" = true → (am.lookup link).isSome) := by
  unfold generateMarkdownLink
  split
  · next h =>
    rw [Matcher.exists_map_eq_ok, anchorLookup]
    cases am.lookup link <;> simp [h]
  · next h => simp [h]

theorem markdownLine_ok_iff (am : List (String × String)) (line : String) :
    (∃ r, markdownLine lower am line = .ok r) ↔
      ∀ x ∈ linkPattern.hits (codePattern.subWith codeSpan line.data),
        startsWith ⟨x.1.2⟩ "#" = true → (am.lookup ⟨x.1.2⟩).isSome := by
  rw [markdownLine, Matcher.exists_map_eq_ok, Matcher.sub_ok_iff]
  exact forall₂_congr fun x _ => by
    rw [markdownLinkRepl, Matcher.exists_map_eq_ok, generateMarkdownLink_ok_iff]

theorem markdownLines_ok_iff (d : Document) : ∀ (g : Bool) (ls : List String),
    (∃ out, markdownLines lower d g ls = .ok out) ↔
      ∀ l ∈ ls, startsWith l "##" = false → ∃ r, markdownLine lower d.anchorMap l = .ok r
  | _, [] => by simp [markdownLines]
  | g, line :: rest => by
    rw [List.forall_mem_cons, markdownLines]
    split
    · next h => rw [Matcher.exists_map_eq_ok, markdownLines_ok_iff d true rest]; simp [h]
    · next h =>
      rw [← markdownLines_ok_iff d g rest]
      cases markdownLine lower d.anchorMap line <;> simp [h, bind, Except.bind, Matcher.exists_map_eq_ok]

theorem forall_not_header_iff {L M : List String}
    (h : L.filter (fun l => !startsWith l "##") = M.filter (fun l => !startsWith l "##"))
    (P : String → Prop) :
    (∀ l ∈ L, startsWith l "##" = false → P l) ↔ ∀ l ∈ M, startsWith l "##" = false → P l := by
  have key : ∀ N : List String, (∀ l ∈ N, startsWith l "##" = false → P l) ↔
      ∀ l ∈ N.filter (fun l => !startsWith l "##"), P l := fun N => by simp [List.mem_filter]
  rw [key, key, h]

/-- **`to_markdown` raises exactly on a dangling in-page link.** For the
    document of any README text, the rendering returns exactly when every
    in-page link of every line not starting with `##` (after the code spans
    are rewritten) is the anchor of some header's title. -/
theorem markdown_ok_iff_links_resolve {text : String} {d : Document}
    (h : Document.new lower text = .ok d) :
    (∃ out, d.toMarkdown lower = .ok out) ↔
      ∀ line ∈ pySplit text '\n', startsWith line "##" = false →
        ∀ x ∈ linkPattern.hits (codePattern.subWith codeSpan line.data),
          startsWith ⟨x.1.2⟩ "#" = true → (⟨x.1.2⟩ : String) ∈ titleAnchors lower (pySplit text '\n') := by
  obtain ⟨hlen, hL, hF⟩ := document_anchors lower h
  have hkey : ∀ a, (d.anchorMap.lookup a).isSome ↔ a ∈ titleAnchors lower (pySplit text '\n') :=
    fun a => by
      rw [hL, List.lookup_isSome_iff]
      conv_rhs => rw [← List.map_fst_zip (titleAnchors lower (pySplit text '\n'))
        (d.sections.map Prod.snd) (by simp [hlen]), List.mem_map]
      simp only [List.mem_reverse, beq_iff_eq]
      exact ⟨fun ⟨p, hp, e⟩ => ⟨p, hp, e.symm⟩, fun ⟨p, hp, e⟩ => ⟨p, hp, e.symm⟩⟩
  rw [Document.toMarkdown, Matcher.exists_map_eq_ok, markdownLines_ok_iff, forall_not_header_iff hF]
  refine forall₂_congr fun line _ => imp_congr_right fun _ => ?_
  rw [markdownLine_ok_iff]
  exact forall₂_congr fun x _ => imp_congr_right fun _ => hkey _

/-- The criterion for a README with one header and a link to it. -/
theorem markdown_ok_iff_links_resolve_one :
    ((∃ out, (⟨["## 1. A", "[a](#A)"], [(1, "1. A")], [("#A", "1. A")]⟩ : Document).toMarkdown id =
        .ok out) ↔
      ∀ line ∈ pySplit "## A\n[a](#A)" '\n', startsWith line "##" = false →
        ∀ x ∈ linkPattern.hits (codePattern.subWith codeSpan line.data),
          startsWith ⟨x.1.2⟩ "#" = true →
            (⟨x.1.2⟩ : String) ∈ titleAnchors id (pySplit "## A\n[a](#A)" '\n')) :=
  markdown_ok_iff_links_resolve id (show Document.new id "## A\n[a](#A)" = _ from rfl)

/-- **Plain lines are copied.** A line with no `::x::` span and no in-page
    link is written as it is. -/
theorem markdown_keeps_plain_line (am : List (String × String)) (line : String)
    (hcode : codePattern.hits line.data = [])
    (hlinks : ∀ x ∈ linkPattern.hits line.data, startsWith ⟨x.1.2⟩ "#" = false) :
    markdownLine lower am line = .ok line := by
  have hc : codePattern.subWith codeSpan line.data = line.data :=
    codePattern.subWith_self (by simp [hcode])
  have hl : linkPattern.sub (markdownLinkRepl lower am) line.data = .ok line.data :=
    linkPattern.sub_self fun x hx => by
      rw [markdownLinkRepl, generateMarkdownLink, if_neg (by simp [hlinks x hx]),
        linkPattern_hit_text hx]
      rfl
  rw [markdownLine, hc, hl]
  rfl

/-- A line with an external link is copied. -/
theorem markdown_keeps_external_link :
    markdownLine id [] "see [docs](http://x)" = .ok "see [docs](http://x)" :=
  markdown_keeps_plain_line id [] _ (by decide) (by decide)

/-! ### The table of contents -/

theorem markdownLines_true (d : Document) :
    ∀ ls, markdownLines lower d true ls = ls.mapM (afterToc lower d.anchorMap)
  | [] => rfl
  | line :: rest => by
    rw [markdownLines, List.mapM_cons, afterToc, markdownLines_true d rest]
    split
    · cases rest.mapM (afterToc lower d.anchorMap) <;> rfl
    · cases markdownLine lower d.anchorMap line <;> cases rest.mapM (afterToc lower d.anchorMap) <;> rfl

theorem markdownLines_plain (d : Document) (g : Bool) :
    ∀ ls, (∀ l ∈ ls, startsWith l "##" = false) →
      markdownLines lower d g ls = ls.mapM (markdownLine lower d.anchorMap)
  | [], _ => rfl
  | line :: rest, h => by
    rw [List.forall_mem_cons] at h
    rw [markdownLines, if_neg (by simp [h.1]), List.mapM_cons, markdownLines_plain d g rest h.2]
    cases markdownLine lower d.anchorMap line <;> cases rest.mapM (markdownLine lower d.anchorMap) <;> rfl

theorem markdownLines_first_header (d : Document) {hd : String} (post : List String)
    (hh : startsWith hd "##" = true) : ∀ pre, (∀ l ∈ pre, startsWith l "##" = false) →
      markdownLines lower d false (pre ++ hd :: post) = (do
        let a ← pre.mapM (markdownLine lower d.anchorMap)
        let b ← post.mapM (afterToc lower d.anchorMap)
        pure (a ++ tocLines lower d.sections ++ hd :: b))
  | [], _ => by
    rw [List.nil_append, markdownLines, if_pos hh, markdownLines_true]
    cases post.mapM (afterToc lower d.anchorMap) <;> rfl
  | line :: pre, h => by
    rw [List.forall_mem_cons] at h
    rw [List.cons_append, markdownLines, if_neg (by simp [h.1]),
      markdownLines_first_header d post hh pre h.2, List.mapM_cons]
    cases markdownLine lower d.anchorMap line <;> cases pre.mapM (markdownLine lower d.anchorMap) <;>
      cases post.mapM (afterToc lower d.anchorMap) <;> rfl

/-- **The table of contents comes once, before the first header.** Without a
    `##` line, every line is rendered and no table is written. Otherwise the
    lines before the first `##` line are rendered, the table of contents
    follows, then that line, and after it every `##` line is kept as it is and
    every other line rendered. -/
theorem toMarkdown_toc (d : Document) :
    ((∀ l ∈ d.lines, startsWith l "##" = false) →
      d.toMarkdown lower = pyJoin "\n" <$> d.lines.mapM (markdownLine lower d.anchorMap)) ∧
    ∀ pre hd post, d.lines = pre ++ hd :: post → (∀ l ∈ pre, startsWith l "##" = false) →
      startsWith hd "##" = true →
      d.toMarkdown lower = (do
        let a ← pre.mapM (markdownLine lower d.anchorMap)
        let b ← post.mapM (afterToc lower d.anchorMap)
        pure (pyJoin "\n" (a ++ tocLines lower d.sections ++ hd :: b))) := by
  refine ⟨fun h => by rw [Document.toMarkdown, markdownLines_plain lower d false _ h],
    fun pre hd post hl hpre hh => ?_⟩
  rw [Document.toMarkdown, hl, markdownLines_first_header lower d post hh pre hpre]
  cases pre.mapM (markdownLine lower d.anchorMap) <;> cases post.mapM (afterToc lower d.anchorMap) <;> rfl

end

end GqlPython
