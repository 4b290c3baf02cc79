import Mathlib.Data.List.Sort
import GqlPython.Text.Str

/-! # `jupyter.py`: finding the adhoc machine

    `get_adhoc_addr` asks `grail-adhoc status` for the user's adhoc instances
    and picks one address. Each line of the output is stripped; blank lines are
    skipped, every other line must match `^i-\S+\s+(\S+)` (an instance id and
    its address) or an `AssertionError` naming the line is raised. No instance
    at all raises an `Exception`; of several, the addresses are sorted and the
    first is taken.

    So, for every output of the command (`adhoc_addr_least`,
    `adhoc_addr_errors`): when some line is not blank and every such line is
    an instance line, the address returned is the least of the addresses
    listed, in the order of `str`; the first line that is neither blank nor an
    instance line makes it raise with that line in the message; and an output
    of blank lines makes it raise that no instance was found.
-/

namespace GqlPython

/-! ### The status lines -/

/-- The exceptions `get_adhoc_addr` raises. -/
inductive AdhocError
  /-- `subprocess.CalledProcessError` from `check_output`. -/
  | calledProcess (argv : List String)
  /-- `AssertionError(msg)`. -/
  | assertion (msg : String)
  /-- `raise Exception(msg)`. -/
  | exception (msg : String)
  /-- `IndexError` from `ipaddrs[0]`. -/
  | index
  deriving DecidableEq, Repr

/-- The command `get_adhoc_addr` runs. -/
def adhocStatusArgs (adhocName : String) : List String :=
  ["grail-adhoc", "status"] ++ if adhocName ≠ "" then ["--name=" ++ adhocName] else []

/-- `re.match(r'^i-\S+\s+(\S+)', line)`: the group, the address. The runs
    `\S+` and `\s+` meet where the characters change kind, so each is the
    longest run of its kind. -/
def statusMatch (line : List Char) : Option String :=
  match line with
  | 'i' :: '-' :: cs =>
    let rest := cs.dropWhile (!isPySpace ·)
    let addr := (rest.dropWhile isPySpace).takeWhile (!isPySpace ·)
    if cs.takeWhile (!isPySpace ·) ≠ [] ∧ rest.takeWhile isPySpace ≠ [] ∧ addr ≠ [] then some ⟨addr⟩
    else none
  | _ => none

example : statusMatch "i-0ab12  10.0.0.7 running".data = some "10.0.0.7" := by decide

/-- The text of the `AssertionError` for a line that is not an instance line. -/
def illegalLineMessage (line : List Char) : String := "illegal grail-adhoc status output: " ++ ⟨line⟩

/-- The loop over the output lines, collecting `ipaddrs`. -/
def collectAddrs : List String → Except AdhocError (List String)
  | [] => .ok []
  | line :: rest =>
    if pyStrip line.data = [] then collectAddrs rest
    else match statusMatch (pyStrip line.data) with
      | none => .error (.assertion (illegalLineMessage (pyStrip line.data)))
      | some a => (a :: ·) <$> collectAddrs rest

/-- The message of the `Exception` for an output with no instance. -/
def noInstanceMessage : String :=
  "No adhoc instance found. Run \"grail-adhoc start\". For\n        more information, see https://phabricator.grailbio.com/w/docs/adhoc/"

/-- `a <= b` on `str`: the code points compared in order, a prefix first. -/
def pyStrLe : List Char → List Char → Bool
  | [], _ => true
  | _ :: _, [] => false
  | a :: as, b :: bs => a.toNat < b.toNat || (a = b && pyStrLe as bs)

/-- `a <= b` for two `str`s. -/
def PyStrLe (a b : String) : Prop := pyStrLe a.data b.data = true

instance : DecidableRel PyStrLe := fun a b => inferInstanceAs (Decidable (pyStrLe a.data b.data = true))

/-- `get_adhoc_addr(adhoc_name)`, with the output of each command given by
    `checkOutput`. -/
def getAdhocAddr (checkOutput : List String → Except AdhocError String) (adhocName : String) :
    Except AdhocError String := do
  let output ← checkOutput (adhocStatusArgs adhocName)
  let addrs ← collectAddrs (pySplit output '\n')
  if addrs = [] then .error (.exception noInstanceMessage)
  else
    match if addrs.length > 1 then addrs.insertionSort PyStrLe else addrs with
    | a :: _ => .ok a
    | [] => .error .index

example : getAdhocAddr (fun _ => .ok "i-2 10.0.0.9\n\ni-1 10.0.0.10\n") "" = .ok "10.0.0.10" := rfl

/-! ### The order of `str` -/

theorem pyStrLe_refl : ∀ a : List Char, pyStrLe a a = true
  | [] => rfl
  | c :: cs => by simp [pyStrLe, pyStrLe_refl cs]

theorem pyStrLe_total : ∀ a b : List Char, (pyStrLe a b || pyStrLe b a) = true
  | [], _ => rfl
  | _ :: _, [] => rfl
  | c :: cs, d :: ds => by
    have ih := pyStrLe_total cs ds
    by_cases h : c = d
    · subst h; simpa [pyStrLe] using ih
    · have : c.toNat ≠ d.toNat := fun e => h (Char.ext (UInt32.ext (by
        simpa [Char.toNat] using e)))
      simp only [pyStrLe, h, decide_False, Bool.and_false, Bool.or_false, Ne.symm h]
      simp only [Bool.or_eq_true, decide_eq_true_eq]
      omega

theorem pyStrLe_trans : ∀ a b c : List Char, pyStrLe a b = true → pyStrLe b c = true →
    pyStrLe a c = true
  | [], _, _, _, _ => rfl
  | _ :: _, [], _, h, _ => by simp [pyStrLe] at h
  | _ :: _, _ :: _, [], _, h => by simp [pyStrLe] at h
  | x :: xs, y :: ys, z :: zs, h1, h2 => by
    simp only [pyStrLe, Bool.or_eq_true, decide_eq_true_eq, Bool.and_eq_true] at h1 h2 ⊢
    rcases h1 with h1 | ⟨rfl, h1⟩ <;> rcases h2 with h2 | ⟨rfl, h2⟩
    · exact .inl (by omega)
    · exact .inl h1
    · exact .inl h2
    · exact .inr ⟨rfl, pyStrLe_trans xs ys zs h1 h2⟩

instance : IsTotal String PyStrLe := ⟨fun a b => by simpa [PyStrLe] using pyStrLe_total a.data b.data⟩

instance : IsTrans String PyStrLe := ⟨fun a b c => pyStrLe_trans a.data b.data c.data⟩

/-- The first element of `sorted(l)` is the least. -/
theorem head_insertionSort_least {a : String} {l rest : List String}
    (h : l.insertionSort PyStrLe = a :: rest) : a ∈ l ∧ ∀ b ∈ l, PyStrLe a b := by
  have hs := List.sorted_insertionSort PyStrLe l
  rw [h, List.sorted_cons] at hs
  have hm : ∀ b, b ∈ l ↔ b = a ∨ b ∈ rest := fun b => by
    rw [← List.mem_insertionSort PyStrLe, h, List.mem_cons]
  refine ⟨(hm a).2 (.inl rfl), fun b hb => ?_⟩
  rcases (hm b).1 hb with rfl | hb
  · exact pyStrLe_refl _
  · exact hs.1 b hb

/-! ### The addresses found -/

/-- A line `get_adhoc_addr` accepts: blank, or an instance line. -/
def LegalLine (l : String) : Prop := pyStrip l.data = [] ∨ (statusMatch (pyStrip l.data)).isSome

instance : DecidablePred LegalLine := fun l =>
  inferInstanceAs (Decidable (pyStrip l.data = [] ∨ (statusMatch (pyStrip l.data)).isSome))

/-- The addresses of the instance lines, in order. -/
def statusAddrs (lines : List String) : List String :=
  lines.filterMap fun l => statusMatch (pyStrip l.data)

/-- **The loop collects the addresses** exactly when every line is accepted. -/
theorem collectAddrs_ok_iff : ∀ (lines : List String) (addrs : List String),
    collectAddrs lines = .ok addrs ↔ (∀ l ∈ lines, LegalLine l) ∧ addrs = statusAddrs lines
  | [], addrs => ⟨fun h => by cases h; exact ⟨fun _ h => absurd h (List.not_mem_nil _), rfl⟩,
      fun ⟨_, h⟩ => h ▸ rfl⟩
  | line :: rest, addrs => by
    have ih := collectAddrs_ok_iff rest
    rw [collectAddrs, List.forall_mem_cons, statusAddrs, List.filterMap_cons, ← statusAddrs]
    by_cases hb : pyStrip line.data = []
    · have hl : LegalLine line := .inl hb
      have hn : statusMatch (pyStrip line.data) = none := by rw [hb]; rfl
      rw [if_pos hb, hn, ih]
      simp only [hl, true_and]
    · rw [if_neg hb]
      cases hm : statusMatch (pyStrip line.data) with
      | none => simp [LegalLine, hb, hm]
      | some a =>
        have hl : LegalLine line := .inr (by simp [hm])
        simp only [hl, true_and]
        cases hr : collectAddrs rest with
        | error e =>
          refine ⟨(fun h => by cases h), fun ⟨hL, _⟩ => ?_⟩
          have := (ih _).2 ⟨hL, rfl⟩
          rw [hr] at this
          cases this
        | ok as =>
          obtain ⟨hL, rfl⟩ := (ih as).1 hr
          exact ⟨(fun h => by cases h; exact ⟨hL, rfl⟩), fun ⟨_, he⟩ => he ▸ rfl⟩

/-- The loop raises only `AssertionError`, and at the first line it does not accept. -/
theorem collectAddrs_error : ∀ (pre : List String) (l : String) (post : List String),
    (∀ p ∈ pre, LegalLine p) → ¬ LegalLine l →
    collectAddrs (pre ++ l :: post) = .error (.assertion (illegalLineMessage (pyStrip l.data)))
  | [], l, post, _, hl => by
    simp only [LegalLine, not_or] at hl
    rw [List.nil_append, collectAddrs, if_neg hl.1]
    cases hm : statusMatch (pyStrip l.data) with
    | none => rfl
    | some a => exact absurd (by simp [hm]) hl.2
  | p :: pre, l, post, hp, hl => by
    rw [List.forall_mem_cons] at hp
    rw [List.cons_append, collectAddrs, collectAddrs_error pre l post hp.2 hl]
    rcases hp.1 with h | h
    · rw [if_pos h]
    · rw [if_neg fun he => absurd (he ▸ h) (by decide)]
      obtain ⟨a, ha⟩ := Option.isSome_iff_exists.1 h
      rw [ha]
      rfl

theorem collectAddrs_error_assertion : ∀ {lines : List String} {e : AdhocError},
    collectAddrs lines = .error e → ∃ msg, e = .assertion msg
  | [], _, h => by cases h
  | line :: rest, e, h => by
    rw [collectAddrs] at h
    split at h
    · exact collectAddrs_error_assertion h
    · split at h
      · cases h; exact ⟨_, rfl⟩
      · cases hr : collectAddrs rest with
        | error e' => rw [hr] at h; cases h; exact collectAddrs_error_assertion hr
        | ok as => rw [hr] at h; cases h

/-! ### `get_adhoc_addr` -/

section
variable (checkOutput : List String → Except AdhocError String) (adhocName : String)

theorem getAdhocAddr_of_addrs {output : String} {addrs : List String}
    (hout : checkOutput (adhocStatusArgs adhocName) = .ok output)
    (h : collectAddrs (pySplit output '\n') = .ok addrs) :
    getAdhocAddr checkOutput adhocName =
      if addrs = [] then .error (.exception noInstanceMessage)
      else match if addrs.length > 1 then addrs.insertionSort PyStrLe else addrs with
        | a :: _ => .ok a
        | [] => .error .index := by
  simp only [getAdhocAddr, hout, h, bind, Except.bind]

/-- **The least address.** When the command succeeds, every line of its
    output is blank or an instance line and there is an instance, the address
    returned is one of the instances' and comes first in the order of `str`. -/
theorem adhoc_addr_least {output : String}
    (hout : checkOutput (adhocStatusArgs adhocName) = .ok output)
    (hlegal : ∀ l ∈ pySplit output '\n', LegalLine l)
    (hinst : statusAddrs (pySplit output '\n') ≠ []) :
    ∃ a, getAdhocAddr checkOutput adhocName = .ok a ∧ a ∈ statusAddrs (pySplit output '\n') ∧
      ∀ b ∈ statusAddrs (pySplit output '\n'), PyStrLe a b := by
  rw [getAdhocAddr_of_addrs checkOutput adhocName hout
    ((collectAddrs_ok_iff _ _).2 ⟨hlegal, rfl⟩), if_neg hinst]
  generalize statusAddrs (pySplit output '\n') = addrs at hinst ⊢
  split
  · next a rest hs =>
    refine ⟨a, rfl, ?_⟩
    split at hs
    · exact head_insertionSort_least hs
    · next hlen =>
      subst hs
      cases rest with
      | nil => exact ⟨List.mem_singleton_self a, fun b hb => by
          rw [List.mem_singleton.1 hb]; exact pyStrLe_refl _⟩
      | cons b rest => exact absurd (by simp) hlen
  · next hs =>
    split at hs
    · exact absurd (List.perm_nil.1 ((List.perm_insertionSort PyStrLe addrs).symm.trans
        (hs ▸ List.Perm.refl _))) hinst
    · exact absurd hs hinst

/-- Two instances: the address first in `str` order is taken. -/
theorem adhoc_addr_least_two :
    ∃ a, getAdhocAddr (fun _ => .ok "i-2 10.0.0.9\n\ni-1 10.0.0.10\n") "" = .ok a ∧
      a ∈ statusAddrs (pySplit "i-2 10.0.0.9\n\ni-1 10.0.0.10\n" '\n') ∧
      ∀ b ∈ statusAddrs (pySplit "i-2 10.0.0.9\n\ni-1 10.0.0.10\n" '\n'), PyStrLe a b :=
  adhoc_addr_least _ "" rfl (by decide) (by decide)

/-- **What `get_adhoc_addr` raises.** When the command succeeds, it raises
    that no instance was found exactly when every line of the output is blank,
    and at the first line that is neither blank nor an instance line it raises
    an `AssertionError` with that line. -/
theorem adhoc_addr_errors {output : String}
    (hout : checkOutput (adhocStatusArgs adhocName) = .ok output) :
    (getAdhocAddr checkOutput adhocName = .error (.exception noInstanceMessage) ↔
        ∀ l ∈ pySplit output '\n', pyStrip l.data = []) ∧
      ∀ pre l post, pySplit output '\n' = pre ++ l :: post → (∀ p ∈ pre, LegalLine p) →
        ¬ LegalLine l →
        getAdhocAddr checkOutput adhocName = .error (.assertion (illegalLineMessage (pyStrip l.data))) := by
  refine ⟨⟨fun h => ?_, fun h => ?_⟩, fun pre l post hs hpre hl => ?_⟩
  · cases hc : collectAddrs (pySplit output '\n') with
    | error e =>
      obtain ⟨msg, rfl⟩ := collectAddrs_error_assertion hc
      simp [getAdhocAddr, hout, hc, bind, Except.bind] at h
    | ok addrs =>
      obtain ⟨hL, rfl⟩ := (collectAddrs_ok_iff _ _).1 hc
      rw [getAdhocAddr_of_addrs checkOutput adhocName hout hc] at h
      split at h
      · next he =>
        intro l hl
        rcases hL l hl with hb | hm
        · exact hb
        · obtain ⟨a, ha⟩ := Option.isSome_iff_exists.1 hm
          exact absurd (List.mem_filterMap.2 ⟨l, hl, ha⟩) (he ▸ List.not_mem_nil a)
      · split at h <;> cases h
  · have hc : collectAddrs (pySplit output '\n') = .ok [] := by
      refine (collectAddrs_ok_iff _ _).2 ⟨fun l hl => .inl (h l hl),
        (List.filterMap_eq_nil_iff.2 fun l hl => ?_).symm⟩
      rw [h l hl]
      rfl
    rw [getAdhocAddr_of_addrs checkOutput adhocName hout hc, if_pos rfl]
  · simp only [getAdhocAddr, hout, hs, collectAddrs_error pre l post hpre hl, bind, Except.bind]

/-- An output with only blank lines, and one with a line that is not an instance line. -/
theorem adhoc_addr_errors_status :
    (getAdhocAddr (fun _ => .ok "i-1 10.0.0.1\nnot ready\n") "" =
        .error (.exception noInstanceMessage) ↔
      ∀ l ∈ pySplit "i-1 10.0.0.1\nnot ready\n" '\n', pyStrip l.data = []) ∧
    ∀ pre l post, pySplit "i-1 10.0.0.1\nnot ready\n" '\n' = pre ++ l :: post →
      (∀ p ∈ pre, LegalLine p) → ¬ LegalLine l →
      getAdhocAddr (fun _ => .ok "i-1 10.0.0.1\nnot ready\n") "" =
        .error (.assertion (illegalLineMessage (pyStrip l.data))) :=
  adhoc_addr_errors _ "" rfl

end

end GqlPython
