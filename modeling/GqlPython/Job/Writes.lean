import GqlPython.Job.Shutdown

/-! # Files a job opens for writing

    `_Instance.run` opens the engine log once, before its retry loop. Each
    sampler opens `pprof_log.txt` once, writes `{prefix}_cpu.{seq}.pprof` and
    then `{prefix}_heap.{seq}.pprof` in cycle `seq`, and ends the cycle with
    `seq += 1`.

    * Every file a thread has opened is behind that thread (`Opened`), and the
      file a step opens is always ahead of it, so no thread opens a file twice
      (`OpenInv`). The key quantity is `nextSnapshot`, the lowest `seq` of a
      snapshot the sampler may still write; no step lowers it.
    * With the paths of a job apart (`Job/Paths`), each file of a job is
      opened at most once, but the profiler log, which both samplers open with
      `'w'` (`opened_at_most_once`).
    * Conversely every snapshot a sampler has written has been opened
      (`SnapshotsOpened`), so the snapshots on disk are numbered without gaps
      (`snapshots_without_gaps`).
-/

namespace GqlPython

/-! ### How far a thread has got -/

/-- The job thread is past `log_out = open(log_path, 'wb')`, or can no longer
    reach it. -/
def JobPc.pastOpen : JobPc → Bool
  | .startBm | .startMain | .openLog => false
  | _ => true

/-- The sampler is past `open(log_path, 'w')`, or can no longer reach it. -/
def SamplerPc.pastOpen : SamplerPc → Bool
  | .idle | .openLog => false
  | _ => true

/-- The sampler will not fetch `r` again in its current cycle. -/
def SamplerPc.pastFetch : SamplerPc → Resource → Bool
  | .fetchHeap, .cpu | .sleep, _ | .exited, _ | .crashed, _ => true
  | _, _ => false

/-- Every snapshot of `r` the sampler may still write has at least this `seq`. -/
def SamplerState.nextSnapshot (t : SamplerState) (r : Resource) : Nat :=
  t.seq + if t.pc.pastFetch r then 1 else 0

/-- The sampler got from `t` to `t'` without going back. -/
structure SamplerState.Advances (t t' : SamplerState) : Prop where
  open_mono : t.pc.pastOpen = true → t'.pc.pastOpen = true
  snapshot_mono : ∀ r, t.nextSnapshot r ≤ t'.nextSnapshot r

namespace SamplerState

theorem Advances.refl (t : SamplerState) : t.Advances t := ⟨id, fun _ => le_rfl⟩

theorem advances_notify (t : SamplerState) : t.Advances t.notify :=
  ⟨by simp, fun r => by simp [nextSnapshot]⟩

/-- A move that leaves `seq` alone goes forward when the new place is past
    whatever the old one was past. -/
theorem advances_of_pc {t t' : SamplerState} (hseq : t'.seq = t.seq)
    (h₁ : t.pc.pastOpen = true → t'.pc.pastOpen = true)
    (h₂ : ∀ r, t.pc.pastFetch r = true → t'.pc.pastFetch r = true) : t.Advances t' :=
  ⟨h₁, fun r => by
    unfold nextSnapshot
    cases h : t.pc.pastFetch r
    · exact hseq ▸ Nat.add_le_add_left (by simp) _
    · simp [h₂ r h, hseq]⟩

/-- The job thread's start moves an idle sampler to `open_log`. -/
theorem Advances.start {t : SamplerState} (h : t.pc = .idle) : t.Advances { t with pc := .openLog } :=
  advances_of_pc rfl (by simp [h, SamplerPc.pastOpen]) (by simp [h, SamplerPc.pastFetch])

end SamplerState

section
variable {i : Instance} {s s' : ProfState} {a : Action} {p : Sampler}

/-- **What a sampler step opens**: the profiler log from `open_log`, or the
    snapshot of `r` and `seq` when `seq` is `nextSnapshot r`, which the step
    then moves past; and the sampler never goes back. -/
theorem samplerNext_opens {done : Bool} {t t' : SamplerState} {u : LockUse} {f : Option String}
    (h : samplerNext i p done t = some (t', u, f)) :
    t.Advances t' ∧ ∀ path ∈ f,
      t.pc = .openLog ∧ path = pprofLogPath i ∧ t'.pc.pastOpen = true ∨
      ∃ r, path = profPath (samplerPrefix i p) r t.seq ∧ t.nextSnapshot r = t.seq ∧
        t'.nextSnapshot r = t.seq + 1 := by
  unfold samplerNext at h
  split at h <;> cases h
  -- `seq += 1` ends the cycle
  case h_8 hpc =>
    exact ⟨⟨by simp [hpc, SamplerPc.pastOpen], fun r => by
      cases r <;> simp [SamplerState.nextSnapshot, hpc, SamplerPc.pastFetch]⟩, by simp⟩
  -- every other step moves the sampler forward in its cycle
  all_goals refine ⟨SamplerState.advances_of_pc rfl (by cases done <;> simp [*, SamplerPc.pastOpen])
    (fun r => by cases r <;> simp [*, SamplerPc.pastFetch]), ?_⟩
  -- the fetches open the snapshot of `seq`
  case h_6 hpc => exact fun path hp => .inr ⟨.cpu, by simp_all [SamplerState.nextSnapshot,
    SamplerPc.pastFetch, cpuProfPath]⟩
  case h_7 hpc => exact fun path hp => .inr ⟨.heap, by simp_all [SamplerState.nextSnapshot,
    SamplerPc.pastFetch, heapProfPath]⟩
  all_goals simp [*, SamplerPc.pastOpen]

/-- A move of one sampler that goes forward leaves every sampler forward. -/
theorem advances_setSampler {t : SamplerState} (h : (s.samplers p).Advances t) (q : Sampler) :
    (s.samplers q).Advances ((s.setSampler p t).samplers q) := by
  rw [ProfState.setSampler_samplers]
  split
  · subst q; exact h
  · exact .refl _

theorem profPath_ne_pprofLogPath (r : Resource) (n : Nat) :
    profPath (samplerPrefix i p) r n ≠ pprofLogPath i := fun h => by
  rw [profPath_eq, pprofLogPath_eq] at h
  cases JobFile.path_injective _ h

theorem profPath_inj {r r' : Resource} {n n' : Nat}
    (h : profPath (samplerPrefix i p) r n = profPath (samplerPrefix i p) r' n') : r = r' ∧ n = n' := by
  rw [profPath_eq, profPath_eq] at h
  cases JobFile.path_injective _ h
  exact ⟨rfl, rfl⟩

end

/-! ### No thread opens a file twice -/

/-- What a file opened by a thread says of how far the thread has got: past
    the `open` of its log, and past the snapshot's cycle step. -/
def Opened (i : Instance) (s : ProfState) : Thread × String → Prop
  | (.job, path) => path = i.logPath → s.job.pc.pastOpen = true
  | (.sampler p, path) => (path = pprofLogPath i → (s.samplers p).pc.pastOpen = true) ∧
      ∀ r n, path = profPath (samplerPrefix i p) r n → n < (s.samplers p).nextSnapshot r

/-- The files opened so far are distinct, and each is behind its thread. -/
structure OpenInv (i : Instance) (s : ProfState) : Prop where
  nodup : s.opened.Nodup
  behind : ∀ e ∈ s.opened, Opened i s e

section
variable {i : Instance} {s s' : ProfState} {a : Action}

theorem OpenInv.init : OpenInv i .init := ⟨List.nodup_nil, fun _ h => absurd h (List.not_mem_nil _)⟩

/-- A file behind its thread stays behind while the threads go forward. -/
theorem Opened.mono (hj : s.job.pc.pastOpen = true → s'.job.pc.pastOpen = true)
    (ha : ∀ p, (s.samplers p).Advances (s'.samplers p)) : ∀ {e}, Opened i s e → Opened i s' e
  | (.job, _), h => fun hp => hj (h hp)
  | (.sampler p, _), ⟨h₁, h₂⟩ =>
    ⟨fun hp => (ha p).open_mono (h₁ hp), fun r n hp => (h₂ r n hp).trans_le ((ha p).snapshot_mono r)⟩

/-- **Step lemma**: a step that moves every thread forward and opens only
    files ahead of their thread, each behind it afterwards, keeps the
    invariant. -/
theorem OpenInv.of_step (hs : OpenInv i s) (hj : s.job.pc.pastOpen = true → s'.job.pc.pastOpen = true)
    (ha : ∀ p, (s.samplers p).Advances (s'.samplers p)) (new : List (Thread × String))
    (ho : s'.opened = s.opened ++ new) (hn : new.Nodup) (hfresh : ∀ e ∈ new, ¬ Opened i s e)
    (hnew : ∀ e ∈ new, Opened i s' e) : OpenInv i s' := by
  refine ⟨ho ▸ List.nodup_append.2 ⟨hs.nodup, hn, fun e he he' => hfresh e he' (hs.behind e he)⟩,
    fun e he => ?_⟩
  rw [ho, List.mem_append] at he
  exact he.elim (fun he => (hs.behind e he).mono hj ha) (hnew e)

/-- A step that opens nothing and moves every thread forward. -/
theorem OpenInv.of_quiet (hs : OpenInv i s) (hj : s.job.pc.pastOpen = true → s'.job.pc.pastOpen = true)
    (ha : ∀ p, (s.samplers p).Advances (s'.samplers p)) (ho : s'.opened = s.opened) : OpenInv i s' :=
  hs.of_step hj ha [] (by rw [ho, List.append_nil]) List.nodup_nil (by simp) (by simp)

/-- A sampler step: `samplerNext` opens at most the file ahead of the sampler. -/
theorem OpenInv.samplerStep (hs : OpenInv i s) {p : Sampler} (h : samplerStep i p s = some s') :
    OpenInv i s' := by
  obtain ⟨t, _, f, _, hn, -, rfl⟩ := samplerStep_inv h
  obtain ⟨hadv, hf⟩ := samplerNext_opens hn
  refine hs.of_step (fun h => h) (advances_setSampler hadv) _ rfl (by cases f <;> simp) ?_ ?_
  all_goals
    simp only [List.mem_map, Option.mem_toList]
    rintro _ ⟨path, hp, rfl⟩
  -- the file is ahead of the sampler
  · rcases hf path hp with ⟨hpc, rfl, -⟩ | ⟨r, rfl, hnext, -⟩
    · simp [Opened, hpc, SamplerPc.pastOpen]
    · exact fun h => absurd (h.2 r _ rfl) (by omega)
  -- and behind it afterwards
  · rcases hf path hp with ⟨-, rfl, ho⟩ | ⟨r, rfl, -, hnext⟩
    · exact ⟨by simpa using ho, fun r n h => absurd h.symm (profPath_ne_pprofLogPath r n)⟩
    · refine ⟨fun h => absurd h (profPath_ne_pprofLogPath r _), fun r' n h => ?_⟩
      obtain ⟨rfl, rfl⟩ := profPath_inj h
      simp [hnext]

/-- A job step, given where the job thread's starts leave the samplers. -/
theorem OpenInv.jobStep (hs : OpenInv i s) (ht : ThreadInv s) (h : jobStep i s = some s') :
    OpenInv i s' := by
  rcases jobStep_cases h with ⟨hpc, rfl⟩ | ⟨hpc, rfl⟩ | ⟨hpc, rfl⟩ | ⟨hpc, rfl | rfl⟩ |
    ⟨hpc, -, rfl⟩ | ⟨hpc, -, rfl⟩ | ⟨hpc, rfl⟩ | ⟨hpc, -, rfl⟩ | ⟨hpc, -, rfl⟩
  -- the starts move an idle sampler to `open_log`
  · exact hs.of_quiet (by simp [hpc, JobPc.pastOpen]) (advances_setSampler (.start (ht.idle_bm.2 hpc))) rfl
  · exact hs.of_quiet (by simp [hpc, JobPc.pastOpen])
      (advances_setSampler (.start (ht.idle_main.2 (.inr hpc)))) rfl
  -- `open(log_path, 'wb')` opens the engine log, ahead of the job thread
  · refine hs.of_step (fun _ => rfl) (fun _ => .refl _) [(.job, i.logPath)] rfl
      (List.nodup_singleton _) ?_ ?_ <;> simp [Opened, hpc, JobPc.pastOpen]
  -- `render`, the loop's exit and `with self.done_cv:` leave the samplers alone
  iterate 4 exact hs.of_quiet (by simp [hpc, JobPc.pastOpen]) (fun _ => .refl _) rfl
  -- `done_cv.notify_all()` leaves the samplers where they are
  · exact hs.of_quiet (fun _ => rfl) (fun p => (s.samplers p).advances_notify) rfl
  -- the joins
  all_goals exact hs.of_quiet (by simp [hpc, JobPc.pastOpen]) (fun _ => .refl _) rfl

theorem OpenInv.step (hs : OpenInv i s) (ht : ThreadInv s) (h : step i s a = some s') :
    OpenInv i s' := by
  cases a with
  | job => exact hs.jobStep ht h
  | engineExit st =>
    obtain ⟨-, -, rfl⟩ := engineExit_inv h
    exact hs.of_quiet (fun _ => by split <;> rfl) (fun _ => .refl _) rfl
  | jobRaises =>
    obtain ⟨-, rfl⟩ := jobRaises_inv h
    exact hs.of_quiet (fun _ => rfl) (fun _ => .refl _) rfl
  | sampler p => exact hs.samplerStep h
  | wake p r =>
    obtain ⟨hw, -, rfl⟩ := wake_inv h
    exact hs.of_quiet (fun h => h) (advances_setSampler (SamplerState.advances_of_pc rfl
      (fun _ => rfl) (by simp [hw, SamplerPc.pastFetch]))) rfl
  | crash p =>
    obtain ⟨-, rfl⟩ := crash_inv h
    exact hs.of_quiet (fun h => h) (advances_setSampler (SamplerState.advances_of_pc rfl
      (fun _ => rfl) fun _ _ => rfl)) rfl

theorem Reachable.openInv (hs : Reachable i s) : OpenInv i s :=
  (hs.inv i (fun s => ThreadInv s ∧ OpenInv i s) ⟨ThreadInv.init, OpenInv.init⟩
    fun _ _ _ h hst => ⟨h.1.step hst, h.2.step h.1 hst⟩).2

end

/-! ### Each file of a job is opened once -/

/-- In a list without repeats, the entries naming `b` are at most as many as
    the values their first components take. -/
theorem count_map_snd_le {α β : Type} [DecidableEq α] [DecidableEq β] {l : List (α × β)}
    (hl : l.Nodup) {b : β} (as : List α) (h : ∀ a, (a, b) ∈ l → a ∈ as) :
    (l.map Prod.snd).count b ≤ as.length := by
  have hsub : (l.filter (·.2 = b)).map Prod.fst ⊆ as := fun a ha => by
    obtain ⟨e, he, rfl⟩ := List.mem_map.1 ha
    obtain ⟨he, hb⟩ := List.mem_filter.1 he
    exact h _ (by simpa [← of_decide_eq_true hb] using he)
  have hnd : ((l.filter (·.2 = b)).map Prod.fst).Nodup :=
    (hl.filter _).map_on fun x hx y hy hxy => Prod.ext hxy <| by
      rw [of_decide_eq_true (List.mem_filter.1 hx).2, of_decide_eq_true (List.mem_filter.1 hy).2]
  calc (l.map Prod.snd).count b = ((l.filter (·.2 = b)).map Prod.fst).length := by
        rw [List.count, List.countP_map, List.countP_eq_length_filter, List.length_map]; rfl
    _ ≤ as.length := (hnd.subperm hsub).length_le

section
variable {i : Instance} {s : ProfState}

/-- Two threads open the same file only when it is the profiler log. -/
theorem opened_thread_eq (hs : Reachable i s) {path : String} {th th' : Thread}
    (h : (th, path) ∈ s.opened) (h' : (th', path) ∈ s.opened) (hp : path ≠ pprofLogPath i) :
    th = th' := by
  rcases th with _ | p <;> rcases th' with _ | q
  · rfl
  · exact (opened_by_job_and_sampler hs h h').elim
  · exact (opened_by_job_and_sampler hs h' h).elim
  · cases p <;> cases q
    · rfl
    · exact absurd (opened_by_both_samplers hs h h') hp
    · exact absurd (opened_by_both_samplers hs h' h) hp
    · rfl

/-- **Each file of a job is opened for writing once, but the profiler log.**
    In every interleaving, the engine log and every snapshot
    `{prefix}_cpu.{seq}.pprof` and `{prefix}_heap.{seq}.pprof` have been
    opened at most once: `seq += 1` gives each cycle fresh names, and no
    snapshot overwrites another. `pprof_log.txt` has been opened at most
    twice, once by each sampler, each time with `'w'`. -/
theorem opened_at_most_once (hs : Reachable i s) (path : String) :
    (s.opened.map Prod.snd).count path ≤ if path = pprofLogPath i then 2 else 1 := by
  have hnd := hs.openInv.nodup
  split_ifs with hp
  · refine count_map_snd_le hnd [.sampler .bm, .sampler .main] fun th h => ?_
    rcases th with _ | p
    · have hj : path = i.logPath := hs.mayOpen _ h
      rw [hp, logPath_eq, pprofLogPath_eq] at hj
      cases JobFile.path_injective _ hj
    · cases p <;> simp
  · by_cases hex : ∃ th, (th, path) ∈ s.opened
    · obtain ⟨th, hth⟩ := hex
      exact count_map_snd_le hnd [th] fun th' h => List.mem_singleton.2 (opened_thread_eq hs h hth hp)
    · exact (count_map_snd_le hnd [] fun th h => absurd ⟨th, h⟩ hex).trans zero_le_one

/-- Both samplers through two fetch cycles of `bm`: the profiler log has been
    opened twice, each snapshot once. -/
theorem opened_at_most_once_two_cycles :
    let i : Instance := ⟨"/log/run", "run", "/w/s.gql", [], [], 0⟩
    let as := [.job, .job, .sampler .bm, .sampler .main] ++ cycleActions .bm ++ cycleActions .bm
    let s := (run i .init as).getD .init
    Reachable i s ∧ (s.opened.map Prod.snd).count (pprofLogPath i) = 2 ∧
      (s.opened.map Prod.snd).count (pprofLogPath i) ≤ if pprofLogPath i = pprofLogPath i then 2 else 1 := by
  intro i as s
  have hs : Reachable i s := ⟨as, rfl⟩
  exact ⟨hs, by decide, opened_at_most_once hs (pprofLogPath i)⟩

end

/-! ### The snapshots of completed cycles -/

/-- The sampler has written `r`'s snapshot in its current cycle. -/
def SamplerPc.wrote : SamplerPc → Resource → Bool
  | .fetchHeap, .cpu | .sleep, _ => true
  | _, _ => false

/-- The snapshots of `r` the sampler has written: one for each completed
    cycle, and the current cycle's once fetched. -/
def SamplerState.written (t : SamplerState) (r : Resource) : Nat :=
  t.seq + if t.pc.wrote r then 1 else 0

/-- Every snapshot a sampler has written has been opened. -/
def SnapshotsOpened (i : Instance) (s : ProfState) : Prop :=
  ∀ p r n, n < (s.samplers p).written r → (.sampler p, profPath (samplerPrefix i p) r n) ∈ s.opened

section
variable {i : Instance} {s s' : ProfState} {a : Action} {p : Sampler}

/-- **What a sampler step writes**: nothing, or the next snapshot of `r`,
    which it opens. -/
theorem samplerNext_written {done : Bool} {t t' : SamplerState} {u : LockUse} {f : Option String}
    (h : samplerNext i p done t = some (t', u, f)) (r : Resource) :
    t'.written r ≤ t.written r ∨
      t'.written r = t.written r + 1 ∧ f = some (profPath (samplerPrefix i p) r (t.written r)) := by
  unfold samplerNext at h
  split at h <;> cases h
  -- `return not self.done` leaves the loop or starts a cycle
  case h_5 => cases done <;> cases r <;> simp [SamplerState.written, SamplerPc.wrote, *]
  all_goals cases r <;> simp [SamplerState.written, SamplerPc.wrote, cpuProfPath, heapProfPath, *]

/-- A move to a place that has written nothing in the current cycle. -/
theorem written_goSampler_le {pc : SamplerPc} (hpc : ∀ r, pc.wrote r = false) (q : Sampler)
    (r : Resource) : ((s.goSampler p pc).samplers q).written r ≤ (s.samplers q).written r := by
  rw [ProfState.goSampler_eq, ProfState.setSampler_samplers]
  split
  · subst q; simp [SamplerState.written, hpc]
  · exact le_rfl

theorem SnapshotsOpened.init : SnapshotsOpened i .init := fun _ r _ h => by
  cases r <;> simp [SamplerState.written, ProfState.init, SamplerPc.wrote] at h

/-- **Step lemma**: the opened files only grow, and a step that writes the
    next snapshot of a sampler opens it. -/
theorem SnapshotsOpened.of_step (hs : SnapshotsOpened i s) (hgrow : ∀ e ∈ s.opened, e ∈ s'.opened)
    (hw : ∀ p r, (s'.samplers p).written r ≤ (s.samplers p).written r ∨
      (s'.samplers p).written r = (s.samplers p).written r + 1 ∧
        (.sampler p, profPath (samplerPrefix i p) r ((s.samplers p).written r)) ∈ s'.opened) :
    SnapshotsOpened i s' := fun p r n hn => by
  rcases hw p r with hle | ⟨heq, hmem⟩
  · exact hgrow _ (hs p r n (by omega))
  · rcases Nat.lt_or_ge n ((s.samplers p).written r) with hlt | hge
    · exact hgrow _ (hs p r n hlt)
    · obtain rfl : n = (s.samplers p).written r := by omega
      exact hmem

theorem SnapshotsOpened.step (hs : SnapshotsOpened i s) (h : step i s a = some s') :
    SnapshotsOpened i s' := by
  refine hs.of_step (fun e he => ?_) ?_
  · obtain ⟨new, hn, -⟩ := step_opened h
    exact hn ▸ List.mem_append_left _ he
  have hnone : ∀ pc : SamplerPc, pc ≠ .fetchHeap → pc ≠ .sleep → ∀ r, pc.wrote r = false :=
    fun pc h₁ h₂ r => by cases pc <;> cases r <;> simp_all [SamplerPc.wrote]
  cases a with
  | job =>
    rcases jobStep_cases h with ⟨-, rfl⟩ | ⟨-, rfl⟩ | ⟨-, rfl⟩ | ⟨-, rfl | rfl⟩ | ⟨-, -, rfl⟩ |
      ⟨-, -, rfl⟩ | ⟨-, rfl⟩ | ⟨-, -, rfl⟩ | ⟨-, -, rfl⟩
    -- the starts move an idle sampler to `open_log`
    iterate 2 exact fun q r => .inl (written_goSampler_le (hnone _ (by decide) (by decide)) q r)
    -- `done_cv.notify_all()` leaves the samplers where they are
    all_goals exact fun q r => .inl (by simp [SamplerState.written])
  | engineExit st => obtain ⟨-, -, rfl⟩ := engineExit_inv h; exact fun _ _ => .inl le_rfl
  | jobRaises => obtain ⟨-, rfl⟩ := jobRaises_inv h; exact fun _ _ => .inl le_rfl
  | sampler p =>
    obtain ⟨t, _, f, _, hn, -, rfl⟩ := samplerStep_inv h
    intro q r
    simp only [ProfState.setSampler_samplers]
    split
    · subst q
      exact (samplerNext_written hn r).imp_right fun ⟨heq, hf⟩ => ⟨heq, by simp [hf]⟩
    · exact .inl le_rfl
  | wake p r =>
    obtain ⟨-, -, rfl⟩ := wake_inv h
    exact fun q r => .inl (written_goSampler_le (hnone _ (by decide) (by decide)) q r)
  | crash p =>
    obtain ⟨-, rfl⟩ := crash_inv h
    exact fun q r => .inl (written_goSampler_le (hnone _ (by decide) (by decide)) q r)

theorem Reachable.snapshotsOpened (hs : Reachable i s) : SnapshotsOpened i s :=
  hs.inv i (SnapshotsOpened i) .init fun _ _ _ h hst => h.step hst

/-- **The snapshots are numbered without gaps.** In every interleaving, a
    sampler that has completed `seq` cycles has opened the cpu and the heap
    snapshot of each of them, and no snapshot of a cycle after its current
    one. -/
theorem snapshots_without_gaps (hs : Reachable i s) (p : Sampler) (r : Resource) (n : Nat) :
    (n < (s.samplers p).seq → (.sampler p, profPath (samplerPrefix i p) r n) ∈ s.opened) ∧
      ((.sampler p, profPath (samplerPrefix i p) r n) ∈ s.opened → n ≤ (s.samplers p).seq) := by
  refine ⟨fun h => hs.snapshotsOpened p r n (by simp only [SamplerState.written]; omega), fun h => ?_⟩
  have := (hs.openInv.behind _ h).2 r n rfl
  simp only [SamplerState.nextSnapshot] at this
  split at this <;> omega

/-- After two cycles of `bm`, its heap snapshot of cycle 1 is on disk. -/
theorem snapshots_without_gaps_two_cycles :
    let i : Instance := ⟨"/log/run", "run", "/w/s.gql", [], [], 0⟩
    let as := [.job, .job, .sampler .bm, .sampler .main] ++ cycleActions .bm ++ cycleActions .bm
    let s := (run i .init as).getD .init
    Reachable i s ∧ (s.samplers .bm).seq = 2 ∧
      (1 < (s.samplers .bm).seq → (.sampler .bm, profPath (samplerPrefix i .bm) .heap 1) ∈ s.opened) ∧
      ((.sampler .bm, profPath (samplerPrefix i .bm) .heap 1) ∈ s.opened → 1 ≤ (s.samplers .bm).seq) := by
  intro i as s
  have hs : Reachable i s := ⟨as, rfl⟩
  exact ⟨hs, rfl, snapshots_without_gaps hs .bm .heap 1⟩

end

end GqlPython
