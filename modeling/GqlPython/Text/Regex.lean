import GqlPython.Text.Str

/-! # `re.sub` over one line

    `release.py` rewrites the README line by line with
    `re.sub(pattern, repl, line)`. The line is scanned from the left: where the
    pattern matches, the match is replaced and the scan goes on after it;
    elsewhere one character is kept and the scan moves one character on.
    `Matcher.scan` is that scan. It cuts the line into the characters no match
    covers and the matches, each with its groups and its text `m[0]`;
    `re.finditer` yields the matches (`Matcher.hits`) and `re.sub` replaces
    each of them (`Matcher.sub`, with a callable that may raise, and
    `Matcher.subWith`, with a template).

    A pattern is given by `re.match` at one position (`Matcher`), which also
    sees the character before the position, as `\b` does. The patterns of
    `release.py` never match the empty string: `Matcher` carries that as a
    field, and it is what makes the scan keep the text. Putting the pieces back
    together gives the line (`flatMap_text_pieces`), so a substitution that puts
    every match back is the identity (`sub_self`), and a substitution raises
    exactly when `repl` raises on one of the matches (`sub_ok_iff`).
-/

namespace GqlPython

/-- `re.match(pattern, s[i:])` for a pattern that never matches the empty
    string: from the character before position `i` and the text from `i`, the
    groups and the length of the match. -/
structure Matcher (α : Type) where
  run : Option Char → List Char → Option (α × Nat)
  len_pos : ∀ {p : Option Char} {s : List Char} {g : α} {n : Nat}, run p s = some (g, n) → 0 < n

/-- A piece of a scanned line: a character no match covers, or a match with its
    groups and its text. -/
inductive Piece (α : Type) where
  | char (c : Char)
  | hit (g : α) (text : List Char)
  deriving DecidableEq, Repr

/-- The text of a piece in the line. -/
def Piece.text {α : Type} : Piece α → List Char
  | .char c => [c]
  | .hit _ t => t

/-- The match of a piece, if it is one. -/
def Piece.match? {α : Type} : Piece α → Option (α × List Char)
  | .char _ => none
  | .hit g t => some (g, t)

/-- What a piece becomes under `re.sub` with a callable `repl`. -/
def Piece.subst {α ε : Type} (repl : α → Except ε (List Char)) : Piece α → Except ε (List Char)
  | .char c => .ok [c]
  | .hit g _ => repl g

/-- What a piece becomes under `re.sub` with a template. -/
def Piece.fill {α : Type} (repl : α → List Char) : Piece α → List Char
  | .char c => [c]
  | .hit g _ => repl g

namespace Matcher

variable {α ε : Type} (m : Matcher α)

/-- The scan of `re.sub` and `re.finditer`, from the character before the
    position and the number of characters of the last match still to pass. -/
def scan : Option Char → Nat → List Char → List (Piece α)
  | _, _, [] => []
  | _, skip + 1, c :: cs => scan (some c) skip cs
  | prev, 0, c :: cs =>
    match m.run prev (c :: cs) with
    | some (g, n) => .hit g ((c :: cs).take n) :: scan (some c) (n - 1) cs
    | none => .char c :: scan (some c) 0 cs

/-- The pieces of a whole line. -/
def pieces (s : List Char) : List (Piece α) := m.scan none 0 s

/-- `re.finditer(pattern, s)`: the groups and the text of each match. -/
def hits (s : List Char) : List (α × List Char) := (m.pieces s).filterMap Piece.match?

/-- `re.sub(pattern, repl, s)` with a callable `repl`, which may raise; it is
    called on the matches from left to right. -/
def sub (repl : α → Except ε (List Char)) (s : List Char) : Except ε (List Char) :=
  List.flatten <$> (m.pieces s).mapM (Piece.subst repl)

/-- `re.sub(pattern, template, s)`: `repl` is the template with the groups
    filled in. -/
def subWith (repl : α → List Char) (s : List Char) : List Char :=
  (m.pieces s).flatMap (Piece.fill repl)

/-! ### The scan keeps the text -/

/-- **The pieces spell the text.** From any point of the scan, the pieces'
    texts put together are the rest of the line. -/
theorem flatMap_text_scan : ∀ (p : Option Char) (k : Nat) (s : List Char),
    (m.scan p k s).flatMap Piece.text = s.drop k
  | _, _, [] => by simp [scan]
  | _, k + 1, c :: cs => by rw [scan, flatMap_text_scan]; rfl
  | p, 0, c :: cs => by
    unfold scan
    split
    · next g n h =>
      have hn := m.len_pos h
      rw [List.flatMap_cons, flatMap_text_scan, Piece.text]
      obtain ⟨n, rfl⟩ : ∃ n', n = n' + 1 := ⟨n - 1, by omega⟩
      simp
    · rw [List.flatMap_cons, flatMap_text_scan]; rfl

theorem flatMap_text_pieces (s : List Char) : (m.pieces s).flatMap Piece.text = s :=
  m.flatMap_text_scan none 0 s

theorem exists_map_eq_ok {β γ : Type} (f : β → γ) (x : Except ε β) :
    (∃ y, f <$> x = .ok y) ↔ ∃ b, x = .ok b := by
  cases x <;> simp [Functor.map, Except.map]

/-- A `mapM` in `Except` returns exactly when `f` returns on every element. -/
theorem mapM_ok_iff {β γ : Type} (f : β → Except ε γ) :
    ∀ xs : List β, (∃ ys, xs.mapM f = .ok ys) ↔ ∀ x ∈ xs, ∃ y, f x = .ok y
  | [] => ⟨fun _ _ h => (List.not_mem_nil _ h).elim, fun _ => ⟨[], rfl⟩⟩
  | x :: xs => by
    simp only [List.mapM_cons, List.forall_mem_cons, ← mapM_ok_iff f xs]
    cases f x <;> cases xs.mapM f <;> simp [bind, Except.bind, pure, Except.pure]

/-- A `mapM` in `Except` whose `f` returns `g x` on every element. -/
theorem mapM_eq_ok_map {β γ : Type} {f : β → Except ε γ} {g : β → γ} :
    ∀ {xs : List β}, (∀ x ∈ xs, f x = .ok (g x)) → xs.mapM f = .ok (xs.map g)
  | [], _ => rfl
  | x :: xs, h => by
    rw [List.mapM_cons, h x (List.mem_cons_self _ _),
      mapM_eq_ok_map fun y hy => h y (List.mem_cons_of_mem _ hy)]
    rfl

theorem mem_hits {s : List Char} {x : α × List Char} :
    x ∈ m.hits s ↔ Piece.hit x.1 x.2 ∈ m.pieces s := by
  simp only [hits, List.mem_filterMap]
  constructor
  · rintro ⟨(_ | ⟨g, t⟩), hp, he⟩ <;> cases he; exact hp
  · exact fun h => ⟨_, h, rfl⟩

theorem run_of_hit_mem_scan {g : α} {t : List Char} :
    ∀ {p : Option Char} {k : Nat} {s : List Char}, Piece.hit g t ∈ m.scan p k s →
      ∃ q u n, m.run q u = some (g, n) ∧ t = u.take n
  | _, _, [], h => by simp [scan] at h
  | _, k + 1, c :: cs, h => by rw [scan] at h; exact run_of_hit_mem_scan h
  | p, 0, c :: cs, h => by
    unfold scan at h
    split at h
    · next g' n hr =>
      rcases List.mem_cons.1 h with h | h
      · cases h; exact ⟨_, _, _, hr, rfl⟩
      · exact run_of_hit_mem_scan h
    · rcases List.mem_cons.1 h with h | h
      · cases h
      · exact run_of_hit_mem_scan h

/-- Each match found is `re.match` of the pattern at some position. -/
theorem run_of_mem_hits {s : List Char} {x : α × List Char} (hx : x ∈ m.hits s) :
    ∃ q u n, m.run q u = some (x.1, n) ∧ x.2 = u.take n :=
  m.run_of_hit_mem_scan ((m.mem_hits).1 hx)

/-- **A substitution raises exactly when `repl` raises on a match.** -/
theorem sub_ok_iff (repl : α → Except ε (List Char)) (s : List Char) :
    (∃ out, m.sub repl s = .ok out) ↔ ∀ x ∈ m.hits s, ∃ r, repl x.1 = .ok r := by
  have key := mapM_ok_iff (Piece.subst repl) (m.pieces s)
  constructor
  · rintro ⟨out, hout⟩ x hx
    rw [sub] at hout
    cases hm : (m.pieces s).mapM (Piece.subst repl) with
    | error e => rw [hm] at hout; cases hout
    | ok ys => exact key.1 ⟨ys, hm⟩ _ ((m.mem_hits).1 hx)
  · intro h
    obtain ⟨ys, hys⟩ := key.2 fun
      | .char c, _ => ⟨[c], rfl⟩
      | .hit g t, hp => h (g, t) ((m.mem_hits).2 hp)
    exact ⟨ys.flatten, by rw [sub, hys]; rfl⟩

/-- **Putting every match back is the identity.** A substitution whose `repl`
    returns each match's own text leaves the line as it is. -/
theorem sub_self {repl : α → Except ε (List Char)} {s : List Char}
    (h : ∀ x ∈ m.hits s, repl x.1 = .ok x.2) : m.sub repl s = .ok s := by
  rw [sub, mapM_eq_ok_map (g := Piece.text) fun
    | .char c, _ => rfl
    | .hit g t, hp => h (g, t) ((m.mem_hits).2 hp)]
  show Except.ok (List.flatten ((m.pieces s).map Piece.text)) = _
  rw [← List.flatMap_def, flatMap_text_pieces]

/-- A template substitution that puts every match back is the identity. -/
theorem subWith_self {repl : α → List Char} {s : List Char}
    (h : ∀ x ∈ m.hits s, repl x.1 = x.2) : m.subWith repl s = s := by
  conv_rhs => rw [← m.flatMap_text_pieces s]
  refine List.flatMap_congr fun
    | .char c, _ => rfl
    | .hit g t, hp => h (g, t) ((m.mem_hits).2 hp)

/-- Every character of a match is a character of the line. -/
theorem mem_of_mem_hits {s : List Char} {x : α × List Char} (hx : x ∈ m.hits s) {c : Char}
    (hc : c ∈ x.2) : c ∈ s := by
  rw [← m.flatMap_text_pieces s]
  exact List.mem_flatMap.2 ⟨_, (m.mem_hits).1 hx, hc⟩

/-- **A pattern that cannot start in the line changes nothing.** When every
    match of the pattern begins with `c` and the line has no `c`, a template
    substitution leaves the line as it is. -/
theorem subWith_of_not_mem {c : Char}
    (hrun : ∀ {q u g n}, m.run q u = some (g, n) → u.head? = some c)
    {repl : α → List Char} {s : List Char} (hs : c ∉ s) : m.subWith repl s = s :=
  m.subWith_self fun x hx => by
    obtain ⟨q, u, n, hr, ht⟩ := m.run_of_mem_hits hx
    have hu := hrun hr
    obtain ⟨n, rfl⟩ : ∃ k, n = k + 1 := ⟨n - 1, by have := m.len_pos hr; omega⟩
    cases u with
    | nil => cases hu
    | cons a u =>
      cases hu
      exact absurd (m.mem_of_mem_hits hx (by rw [ht]; exact List.mem_cons_self _ _)) hs

/-- Once the last match covers the rest of the line, the scan has nothing left. -/
theorem scan_of_length_le : ∀ {p : Option Char} {k : Nat} {s : List Char}, s.length ≤ k →
    m.scan p k s = []
  | _, _, [], _ => by simp [scan]
  | _, k + 1, c :: cs, h => by
    rw [scan]
    exact scan_of_length_le (by simp at h; omega)
  | _, 0, _ :: _, h => by simp at h

/-- **A match that covers the whole line** is replaced by `repl` of its groups. -/
theorem sub_of_run_length {repl : α → Except ε (List Char)} {s : List Char} {g : α}
    (h : m.run none s = some (g, s.length)) : m.sub repl s = repl g := by
  cases s with
  | nil => cases m.len_pos h
  | cons c cs =>
  have hp : m.pieces (c :: cs) = [.hit g (c :: cs)] := by
    simp only [pieces, scan, h, List.take_length]
    rw [m.scan_of_length_le (by simp)]
  rw [sub, hp, List.mapM_cons, List.mapM_nil, Piece.subst]
  cases repl g <;> simp [bind, Except.bind, pure, Except.pure, Functor.map, Except.map]

end Matcher

end GqlPython
