import GqlPython.Release.Markdown

/-! # `release.py`: the remarkup rendering of the README

    `Document.to_remarkup` turns the numbered README into Phabricator remarkup
    for the wiki. Each line goes through four substitutions: `::x::` becomes
    `` `x` ``, `*x*` and `_x_` become `//x//`, and a link `[text](target)`
    becomes `[[target|text]]`, an in-page target going through the anchor map
    to the remarkup anchor of a numbered header (`__generate_remarkup_link`):
    the header whose title has that anchor (`remarkup_link_resolves`). The
    emphasis substitutions run first and see the link targets too, so a
    target with `_a_` in it is rewritten before it is looked up.

    The lines are then joined. Markdown ends a paragraph at an empty line,
    remarkup at a line break, so a line that is neither empty nor a table
    row, code line or list item is joined to the line before it with a space;
    empty lines and the other lines keep their line breaks. What this is for
    (`remarkup_paragraphs`): when no table row, code line or list item stands
    right next to a line of a paragraph, the non-empty lines of the output
    are the README's paragraphs, each on one line, and its table rows, code
    lines and list items, each on its own.
-/

namespace GqlPython

/-! ### Anchors and links -/

/-- `Document.__to_remarkup_hashtag(text)`: lower case, each run of
    whitespace, `.`, `:` and `/` a dash, after a `#`, cut at 25 characters. -/
def toRemarkupHashtag (lower : String → String) (text : String) : String :=
  ⟨('#' :: collapseRuns (fun c => isPySpace c || c = '.' || c = ':' || c = '/') false
    (lower text).data).take 25⟩

example : toRemarkupHashtag id "1.2. Reading a/b: TSV files" = "#1-2-Reading-a-b-TSV-file" := by
  decide

section
variable (lower : String → String) (isAlnum : Char → Bool)

/-- `Document.__generate_remarkup_link(link)`. -/
def generateRemarkupLink (anchorMap : List (String × String)) (link : String) :
    Except KeyError String :=
  if startsWith link "#" then toRemarkupHashtag lower <$> anchorLookup anchorMap link
  else .ok link

/-- The callable `lambda m: f'[[{self.__generate_remarkup_link(m[2])}|{m[1]}]]'`. -/
def remarkupLinkRepl (anchorMap : List (String × String)) (g : List Char × List Char) :
    Except KeyError (List Char) :=
  (fun t : String => '[' :: '[' :: t.data ++ '|' :: g.1 ++ [']', ']']) <$>
    generateRemarkupLink lower anchorMap ⟨g.2⟩

/-! ### Emphasis -/

/-- The longest run after a delimiter `d` of characters that are neither `d`
    nor whitespace: the group `([^d\s]+)`. -/
def emphasisRun (d : Char) (cs : List Char) : List Char :=
  cs.takeWhile fun c => c != d && !isPySpace c

/-- `re.match(r'\*([^*\s]+)\*', s)`. -/
def starMatch (s : List Char) : Option (List Char × Nat) :=
  match s with
  | '*' :: cs =>
    match emphasisRun '*' cs, cs.drop (emphasisRun '*' cs).length with
    | _ :: _, '*' :: _ => some (emphasisRun '*' cs, (emphasisRun '*' cs).length + 2)
    | _, _ => none
  | _ => none

/-- `\w`: `str.isalnum()` or `_`. -/
def isWordChar (c : Char) : Bool := isAlnum c || c = '_'

/-- `re.match(r'\b\_([^_\s]+)\_\b', s)` after the character `prev`: as `_` is
    a word character, the boundaries ask that neither `prev` nor the character
    after the closing `_` is one. -/
def underscoreMatch (prev : Option Char) (s : List Char) : Option (List Char × Nat) :=
  match s with
  | '_' :: cs =>
    match emphasisRun '_' cs, cs.drop (emphasisRun '_' cs).length with
    | _ :: _, '_' :: rest =>
      if (prev.map (isWordChar isAlnum)).getD false || (rest.head?.map (isWordChar isAlnum)).getD false
      then none
      else some (emphasisRun '_' cs, (emphasisRun '_' cs).length + 2)
    | _, _ => none
  | _ => none

theorem starMatch_pos {s g : List Char} {n : Nat} (h : starMatch s = some (g, n)) : 0 < n := by
  unfold starMatch at h
  split at h
  · split at h
    · cases h; omega
    · cases h
  · cases h

theorem underscoreMatch_pos {p : Option Char} {s g : List Char} {n : Nat}
    (h : underscoreMatch isAlnum p s = some (g, n)) : 0 < n := by
  unfold underscoreMatch at h
  split at h
  · split at h
    · split at h
      · cases h
      · cases h; omega
    · cases h
  · cases h

/-- An emphasis match starts with its delimiter. -/
theorem starMatch_head {s g : List Char} {n : Nat} (h : starMatch s = some (g, n)) :
    s.head? = some '*' := by
  unfold starMatch at h
  split at h
  · rfl
  · cases h

theorem underscoreMatch_head {p : Option Char} {s g : List Char} {n : Nat}
    (h : underscoreMatch isAlnum p s = some (g, n)) : s.head? = some '_' := by
  unfold underscoreMatch at h
  split at h
  · rfl
  · cases h

/-- The pattern `\*([^*\s]+)\*`. -/
def starPattern : Matcher (List Char) := ⟨fun _ => starMatch, starMatch_pos⟩

/-- The pattern `\b\_([^_\s]+)\_\b`. -/
def underscorePattern : Matcher (List Char) :=
  ⟨underscoreMatch isAlnum, underscoreMatch_pos isAlnum⟩

/-- Their template `//\1//`. -/
def italic (g : List Char) : List Char := '/' :: '/' :: g ++ ['/', '/']

/-- The four substitutions of one line of `to_remarkup`. -/
def remarkupLine (anchorMap : List (String × String)) (line : String) : Except KeyError String :=
  String.mk <$> linkPattern.sub (remarkupLinkRepl lower anchorMap)
    ((underscorePattern isAlnum).subWith italic
      (starPattern.subWith italic (codePattern.subWith codeSpan line.data)))

example : remarkupLine id Char.isAlphanum [("#a", "1. A")] "*see* [x](#a) snake_case _it_" =
    .ok "//see// [[#1-A|x]] snake_case //it//" := rfl

/-- The anchor map sends the anchor of a header's title to that header's
    numbered title, as long as no later title has the same anchor. -/
theorem generateRemarkupLink_title {text : String} {d : Document} (h : Document.new lower text = .ok d)
    {pre post : List (String × String)} {x : String × String}
    (hx : (titleAnchors lower (pySplit text '\n')).zip (d.sections.map Prod.snd) = pre ++ x :: post)
    (hlast : ∀ y ∈ post, y.1 ≠ x.1) :
    generateRemarkupLink lower d.anchorMap x.1 = .ok (toRemarkupHashtag lower x.2) := by
  rw [generateRemarkupLink, if_pos (startsWith_titleAnchor lower hx), anchorLookup,
    anchorMap_lookup_last lower h hx hlast]
  rfl

/-- **An in-page link goes to its header's remarkup anchor.** A line that is
    a link `[t](#a)` to the anchor of a header's title, as long as no later
    title has the same anchor, goes through the four substitutions of
    `to_remarkup` to `[[a'|t]]`, `a'` the remarkup anchor of that header's
    numbered title. The emphasis substitutions run before the links and see the
    target too: the anchor must have no `*` and no `_` in it, and the text no
    `*`, `_`, `:` or `]`. -/
theorem remarkup_link_resolves {text : String} {d : Document} (h : Document.new lower text = .ok d)
    {pre post : List (String × String)} {x : String × String}
    (hx : (titleAnchors lower (pySplit text '\n')).zip (d.sections.map Prod.snd) = pre ++ x :: post)
    (hlast : ∀ y ∈ post, y.1 ≠ x.1) (hemph : '*' ∉ x.1.data ∧ '_' ∉ x.1.data) {t : String}
    (ht : ']' ∉ t.data ∧ '*' ∉ t.data ∧ '_' ∉ t.data ∧ ':' ∉ t.data) :
    remarkupLine lower isAlnum d.anchorMap ("[" ++ t ++ "](" ++ x.1 ++ ")") =
      .ok ("[[" ++ toRemarkupHashtag lower x.2 ++ "|" ++ t ++ "]]") := by
  -- the target is a markdown anchor, which has no `:` and no `)`
  obtain ⟨m, -, hm⟩ := List.mem_map.1
    (List.of_mem_zip (hx ▸ List.mem_append_right pre (List.mem_cons_self x post))).1
  have hanchor := colon_paren_not_mem_toMarkdownHashtag lower m.2
  rw [hm] at hanchor
  have hline : ("[" ++ t ++ "](" ++ x.1 ++ ")").data =
      '[' :: (t.data ++ ']' :: '(' :: (x.1.data ++ [')'])) := by
    simp
  rw [remarkupLine, hline,
    codePattern.subWith_of_not_mem codeMatch_head (by simp [ht.2.2.2, hanchor.1]),
    starPattern.subWith_of_not_mem starMatch_head (by simp [ht.2.1, hemph.1]),
    (underscorePattern isAlnum).subWith_of_not_mem (underscoreMatch_head isAlnum)
      (by simp [ht.2.2.1, hemph.2]),
    linkPattern_sub_link _ ht.1 hanchor.2, remarkupLinkRepl,
    show (⟨x.1.data⟩ : String) = x.1 from rfl, generateRemarkupLink_title lower h hx hlast]
  exact congrArg Except.ok (String.ext (by simp))

/-- The emphasis substitutions run first: in the target `#_a_`, `_a_` becomes
    `//a//`, and the lookup of `#//a//` raises `KeyError`. -/
example : remarkupLine id Char.isAlphanum [("#_a_", "1. A")] "[see](#_a_)" = .error ⟨"#//a//"⟩ :=
  rfl

/-- In a README with headers `A` and `B`, a link `[a](#A)` becomes `[[#1-A|a]]`. -/
theorem remarkup_link_resolves_first :
    Document.new id "## A\n[a](#A)\n## B" =
        .ok ⟨["## 1. A", "[a](#A)", "## 2. B"], [(1, "1. A"), (1, "2. B")],
          [("#A", "1. A"), ("#B", "2. B")]⟩ ∧
      remarkupLine id Char.isAlphanum [("#A", "1. A"), ("#B", "2. B")] ("[" ++ "a" ++ "](" ++ "#A" ++ ")") =
        .ok ("[[" ++ toRemarkupHashtag id "1. A" ++ "|" ++ "a" ++ "]]") :=
  have hd : Document.new id "## A\n[a](#A)\n## B" =
      .ok ⟨["## 1. A", "[a](#A)", "## 2. B"], [(1, "1. A"), (1, "2. B")],
        [("#A", "1. A"), ("#B", "2. B")]⟩ := rfl
  ⟨hd, remarkup_link_resolves id Char.isAlphanum hd
    (show _ = [] ++ ("#A", "1. A") :: [("#B", "2. B")] from rfl) (by decide) (by decide) (by decide)⟩

/-! ### Line breaks -/

/-- `re.match(r'\s*\|', line) or line.startswith('    ') or line.startswith('- ')`:
    a table row, a code line or a list item, which keeps its line break. -/
def keepsLineEnd (line : String) : Bool :=
  (line.data.dropWhile isPySpace).head? = some '|' || startsWith line "    " || startsWith line "- "

/-- The joining loop of `to_remarkup`, from `out` and `prev_line`. -/
def joinRemarkup (out prev : String) : List String → String
  | [] => out
  | line :: rest =>
    joinRemarkup
      (if line = "" then out ++ line ++ "\n" ++ (if prev ≠ "" then "\n" else "")
      else if keepsLineEnd line then out ++ line ++ "\n"
      else out ++ (if prev ≠ "" then " " else "") ++ line)
      line rest

/-- `Document.to_remarkup()`. -/
def Document.toRemarkup (d : Document) : Except KeyError String :=
  joinRemarkup "" "" <$> d.lines.mapM (remarkupLine lower isAlnum d.anchorMap)

end

/-! ### Paragraphs -/

/-- A line `to_remarkup` joins to the one before: neither empty nor a table
    row, code line or list item. -/
def joinsParagraph (line : String) : Bool := line ≠ "" && !keepsLineEnd line

/-- A paragraph's lines on one line, `' '.join(run)`; nothing for no lines. -/
def closeRun (run : List String) : List String := if run = [] then [] else [pyJoin " " run]

/-- What the lines are meant to give in remarkup: each paragraph, a run of
    joined lines, on one line, and each table row, code line and list item on
    its own; `run` is the paragraph read so far. -/
def paragraphs (run : List String) : List String → List String
  | [] => closeRun run
  | line :: rest =>
    if joinsParagraph line then paragraphs (run ++ [line]) rest
    else closeRun run ++ (if line = "" then [] else [line]) ++ paragraphs [] rest

/-- The non-empty lines of a text. -/
def textLines (s : String) : List String := (pySplit s '\n').filter (· ≠ "")

/-- Two neighbouring lines that are not a paragraph line and a table row, code
    line or list item, in either order. -/
def Separated (a b : String) : Prop :=
  ¬ (joinsParagraph a = true ∧ keepsLineEnd b = true) ∧ ¬ (keepsLineEnd a = true ∧ joinsParagraph b = true)

instance : DecidableRel Separated := fun _ _ =>
  inferInstanceAs (Decidable (¬ (_ ∧ _) ∧ ¬ (_ ∧ _)))

theorem textLines_append_newline (a b : String) :
    textLines (a ++ "\n" ++ b) = textLines a ++ textLines b := by
  simp only [textLines, pySplit, String.data_append, List.append_assoc]
  rw [show "\n".data ++ b.data = '\n' :: b.data from rfl, splitSep_append_sep, List.filter_append]

theorem textLines_of_not_mem {s : String} (h : '\n' ∉ s.data) :
    textLines s = if s = "" then [] else [s] := by
  rw [textLines, pySplit, splitSep_of_not_mem _ _ _ h]
  split <;> simp_all

theorem textLines_after_break {pfx : String} (h : pfx = "" ∨ ∃ p, pfx = p ++ "\n") (J : String) :
    textLines (pfx ++ J) = textLines pfx ++ textLines J := by
  rcases h with rfl | ⟨p, rfl⟩
  · simp [textLines_of_not_mem (List.not_mem_nil _)]
  · have hp : textLines (p ++ "\n") = textLines p := by
      rw [← String.append_empty (p ++ "\n"), textLines_append_newline,
        textLines_of_not_mem (List.not_mem_nil _)]
      simp
    rw [textLines_append_newline, hp]

theorem textLines_breaks (prev : String) : textLines (if prev ≠ "" then "\n" else "") = [] := by
  split
  · rw [← String.empty_append "\n", ← String.append_empty ("" ++ "\n"), textLines_append_newline]
    rfl
  · rfl

theorem pyJoin_append_single (sep x : String) : ∀ (a : String) (run : List String),
    pyJoin sep ((a :: run) ++ [x]) = pyJoin sep (a :: run) ++ sep ++ x
  | _, [] => rfl
  | a, b :: run => by
    rw [List.cons_append, List.cons_append, pyJoin_cons_cons, ← List.cons_append,
      pyJoin_append_single sep x b run, pyJoin_cons_cons]
    simp only [String.append_assoc]

theorem pyJoin_ne_empty {sep : String} : ∀ {run : List String}, run ≠ [] → (∀ l ∈ run, l ≠ "") →
    pyJoin sep run ≠ ""
  | [], h, _ => absurd rfl h
  | [a], _, h => h a (List.mem_singleton_self a)
  | a :: b :: run, _, h => fun e => by
    rw [pyJoin_cons_cons] at e
    have := congrArg String.data e
    simp only [String.data_append, List.append_eq_nil] at this
    exact h a (List.mem_cons_self _ _) (String.ext this.1.1)

theorem closeRun_eq_textLines {run : List String} (h : ∀ l ∈ run, '\n' ∉ l.data ∧ l ≠ "") :
    closeRun run = textLines (pyJoin " " run) := by
  have hnl : '\n' ∉ (pyJoin " " run).data := fun hm => by
    rcases mem_pyJoin hm with hm | ⟨l, hl, hm⟩
    · simp at hm
    · exact (h l hl).1 hm
  rw [textLines_of_not_mem hnl, closeRun]
  by_cases hr : run = []
  · subst hr; rfl
  · rw [if_neg hr, if_neg (pyJoin_ne_empty hr fun l hl => (h l hl).2)]

theorem keepsLineEnd_empty : keepsLineEnd "" = false := rfl

theorem ends_with_break (s prev : String) :
    ∃ p, s ++ "\n" ++ (if prev ≠ "" then "\n" else "") = p ++ "\n" := by
  split
  · exact ⟨s ++ "\n", rfl⟩
  · exact ⟨s, String.append_empty _⟩

theorem eq_empty_of_not_joins {l : String} (hj : joinsParagraph l = false)
    (hk : keepsLineEnd l = false) : l = "" := by
  simpa [joinsParagraph, hk] using hj

/-- **The joining loop.** From an output that is some finished lines `pfx`
    followed by the paragraph `run` read so far, the loop adds the paragraphs
    of the rest of the lines to the output's non-empty lines. -/
theorem textLines_joinRemarkup : ∀ (out pfx prev : String) (run L : List String),
    out = pfx ++ pyJoin " " run → (pfx = "" ∨ ∃ p, pfx = p ++ "\n") →
    (∀ l ∈ L, '\n' ∉ l.data) → (∀ l ∈ run, '\n' ∉ l.data ∧ l ≠ "") →
    (run = [] ↔ joinsParagraph prev = false) → (prev :: L).Chain' Separated →
    textLines (joinRemarkup out prev L) = textLines pfx ++ paragraphs run L
  | out, pfx, _, run, [], hout, hpfx, _, hrun, _, _ => by
    rw [joinRemarkup, paragraphs, hout, textLines_after_break hpfx, closeRun_eq_textLines hrun]
  | out, pfx, prev, run, line :: rest, hout, hpfx, hL, hrun, hrp, hc => by
    rw [List.forall_mem_cons] at hL
    obtain ⟨⟨hs1, hs2⟩, hc⟩ := List.chain'_cons.1 hc
    rw [joinRemarkup]
    by_cases he : line = ""
    · -- an empty line ends the paragraph
      subst he
      rw [if_pos rfl, textLines_joinRemarkup _ _ "" [] rest (String.append_empty _).symm
        (.inr (ends_with_break _ prev)) hL.2 (by simp) (by simp [joinsParagraph]) hc,
        textLines_append_newline, textLines_breaks, String.append_empty, hout,
        textLines_after_break hpfx, ← closeRun_eq_textLines hrun, paragraphs,
        if_neg (by simp [joinsParagraph]), if_pos rfl]
      simp
    · by_cases hk : keepsLineEnd line = true
      · -- a table row, code line or list item keeps its line
        have hr : run = [] := hrp.2 (by
          cases h : joinsParagraph prev
          · rfl
          · exact absurd ⟨h, hk⟩ hs1)
        subst hr
        rw [if_neg he, if_pos hk, textLines_joinRemarkup _ _ line [] rest (String.append_empty _).symm
          (.inr ⟨_, rfl⟩) hL.2 (by simp) (by simp [joinsParagraph, hk]) hc,
          ← String.append_empty (out ++ line ++ "\n"), textLines_append_newline, hout,
          show pyJoin " " [] = "" from rfl, String.append_empty, textLines_after_break hpfx, textLines_of_not_mem hL.1, if_neg he, paragraphs,
          if_neg (by simp [joinsParagraph, hk]), if_neg he]
        simp [closeRun, paragraphs, textLines_of_not_mem (List.not_mem_nil _)]
      · -- any other line joins the paragraph
        have hj : joinsParagraph line = true := by simp [joinsParagraph, he, hk]
        have hout' : out ++ (if prev ≠ "" then " " else "") ++ line = pfx ++ pyJoin " " (run ++ [line]) := by
          rcases run with _ | ⟨a, run⟩
          · have hp : prev = "" := eq_empty_of_not_joins (hrp.1 rfl) (by
              cases h : keepsLineEnd prev
              · rfl
              · exact absurd ⟨h, hj⟩ hs2)
            simp [hout, hp, pyJoin]
          · have hp : prev ≠ "" := fun e => by
              have := hrp.not.1 (List.cons_ne_nil _ _)
              simp [e, joinsParagraph] at this
            rw [if_pos hp, hout, pyJoin_append_single]
            simp only [String.append_assoc]
        rw [if_neg he, if_neg hk, textLines_joinRemarkup _ pfx line (run ++ [line]) rest hout' hpfx hL.2
          (fun l hl => by
            rcases List.mem_append.1 hl with hl | hl
            · exact hrun l hl
            · rw [List.mem_singleton.1 hl]; exact ⟨hL.1, he⟩)
          (by simp [hj]) hc, paragraphs, if_pos hj]

/-- **Paragraphs become lines.** When the lines `to_remarkup` joins, those the
    substitutions give, hold no line break and no table row, code line or list
    item stands right next to a line of a paragraph, the non-empty lines of the
    output are the paragraphs, each joined with spaces, and the table rows,
    code lines and list items, each on its own. -/
theorem remarkup_paragraphs (lower : String → String) (isAlnum : Char → Bool) (d : Document)
    {ls : List String} (h : d.lines.mapM (remarkupLine lower isAlnum d.anchorMap) = .ok ls)
    (hnl : ∀ l ∈ ls, '\n' ∉ l.data) (hsep : ls.Chain' Separated) :
    ∃ out, d.toRemarkup lower isAlnum = .ok out ∧ textLines out = paragraphs [] ls := by
  refine ⟨_, by rw [Document.toRemarkup, h]; rfl, ?_⟩
  have hc : ("" :: ls).Chain' Separated :=
    List.chain'_cons'.2 ⟨fun _ _ => ⟨by simp [joinsParagraph], by simp [keepsLineEnd_empty]⟩, hsep⟩
  simpa [textLines_of_not_mem (List.not_mem_nil _)] using
    textLines_joinRemarkup "" "" "" [] ls rfl (.inl rfl) hnl (by simp) (by simp [joinsParagraph]) hc

/-- A paragraph of two lines and a list after an empty line. -/
theorem remarkup_paragraphs_list :
    ∃ out, (⟨["Use *gql* to", "query tables.", "", "- one", "- two"], [], []⟩ : Document).toRemarkup
        id Char.isAlphanum = .ok out ∧
      textLines out = ["Use //gql// to query tables.", "- one", "- two"] :=
  have hls : (["Use *gql* to", "query tables.", "", "- one", "- two"] : List String).mapM
      (remarkupLine id Char.isAlphanum []) =
        .ok ["Use //gql// to", "query tables.", "", "- one", "- two"] := rfl
  remarkup_paragraphs id Char.isAlphanum ⟨_, [], []⟩ hls (by decide)
    (.cons (by decide) (.cons (by decide) (.cons (by decide) (.cons (by decide) .nil))))

end GqlPython
