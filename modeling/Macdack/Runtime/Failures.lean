import Macdack.Runtime.Sync

/-!
# Failed polls

A poll that fails changes nothing that is served: the active table, the cache and
what the status says of the data stay as they were, and only a failure to persist
a new table touches the directory at all (`failure_keeps_data`). So a table that
is present stays present.
-/

set_option autoImplicit false

namespace Macdack

open Calls

/-! ## The ways to fail -/

/-- The answers that a poll refuses. -/
inductive Refuses (cache : RemoteCache) : Answer → Prop where
  | transport (chain : List String) : Refuses cache (.failed chain)
  | status {response : Response} : response.status ≠ 200 → response.status ≠ 304 →
      Refuses cache (.received response)
  | nothingCached {response : Response} : response.status = 304 → cache.body = none →
      Refuses cache (.received response)
  | announced {response : Response} {length : ℕ} : response.status = 200 →
      response.contentLength = some length → maxCsvBytes < length →
        Refuses cache (.received response)
  | oversize {response : Response} : response.status = 200 →
      maxCsvBytes < response.chunks.flatten.length → Refuses cache (.received response)
  | broken {response : Response} {chain : List String} : response.status = 200 →
      response.failure = some chain → Refuses cache (.received response)

/-- The loop over the chunks fails on a broken body and on one above the limit. -/
theorem receive_eq_error_iff {chunks : List Bytes} {failure : Option (List String)} :
    (∃ stop, receive [] chunks failure = .error stop) ↔
      (∃ chain, failure = some chain) ∨ maxCsvBytes < chunks.flatten.length := by
  cases received : receive [] chunks failure with
  | ok body =>
      obtain ⟨rfl, rfl, short⟩ := (receive_eq_ok_iff (Nat.zero_le _)).mp received
      rw [List.nil_append] at short
      simpa using short
  | error stop =>
      refine iff_of_true ⟨stop, rfl⟩ ?_
      by_contra complete
      rw [not_or, not_exists, Nat.not_lt] at complete
      have returns : receive [] chunks failure = .ok ([] ++ chunks.flatten) :=
        (receive_eq_ok_iff (Nat.zero_le _)).mpr
          ⟨rfl, Option.eq_none_iff_forall_ne_some.mpr complete.1, complete.2⟩
      rw [received] at returns
      cases returns

/-- A response that is not an unchanged one gives its complete body, if it passes
the checks. -/
theorem download_of_ne {foreign : Foreign} (cache : RemoteCache) {response : Response}
    (changed : response.status ≠ 304) :
    (∃ stop, download foreign cache response = .error stop) ↔
      response.status ≠ 200 ∨ (∃ length, response.contentLength = some length ∧
        maxCsvBytes < length) ∨
        ∃ stop, receive [] response.chunks response.failure = .error stop := by
  rw [download, if_neg changed]
  by_cases isOk : response.status = 200
  · have passes : isErrorStatus response.status = false := by
      rw [isOk]
      rfl
    rw [passes, decide_eq_true isOk, Bool.not_false, Outcome.ensure_true, Outcome.bind_ok,
      Outcome.ensure_true, Outcome.bind_ok]
    cases announced : response.contentLength with
    | none =>
        cases receive [] response.chunks response.failure <;> simp [isOk]
    | some length =>
        by_cases above : maxCsvBytes < length
        · simp [isOk, above, Outcome.fail]
        · cases receive [] response.chunks response.failure <;> simp [isOk, above]
  · simp only [isOk, ne_eq, not_false_eq_true, true_or, iff_true]
    cases isErrorStatus response.status with
    | true => exact ⟨_, rfl⟩
    | false => exact ⟨_, rfl⟩

/-- **The refused answers** are those that make the fetch fail. -/
theorem fetch_eq_error_iff {foreign : Foreign} {cache : RemoteCache} {answer : Answer} :
    (∃ stop, fetch foreign cache answer = .error stop) ↔ Refuses cache answer := by
  cases answer with
  | failed chain => exact ⟨fun _ => .transport chain, fun _ => ⟨_, rfl⟩⟩
  | received response =>
      by_cases unchanged : response.status = 304
      · rw [fetch, download, if_pos unchanged]
        cases cached : cache.body with
        | none => exact ⟨fun _ => .nothingCached unchanged cached, fun _ => ⟨_, rfl⟩⟩
        | some body =>
            constructor
            · rintro ⟨stop, impossible⟩
              cases impossible
            · intro refuses
              cases refuses with
              | status _ changed => exact absurd unchanged changed
              | nothingCached _ missing =>
                  rw [cached] at missing
                  cases missing
              | announced isOk => exact absurd (unchanged.symm.trans isOk) (by decide)
              | oversize isOk => exact absurd (unchanged.symm.trans isOk) (by decide)
              | broken isOk => exact absurd (unchanged.symm.trans isOk) (by decide)
      · rw [fetch, download_of_ne cache unchanged, receive_eq_error_iff]
        constructor
        · intro failed
          by_cases isOk : response.status = 200
          · rcases failed with other | ⟨length, announced, above⟩ | ⟨chain, broken⟩ | above
            · exact absurd isOk other
            · exact .announced isOk announced above
            · exact .broken isOk broken
            · exact .oversize isOk above
          · exact .status isOk unchanged
        · intro refuses
          cases refuses with
          | status other => exact .inl other
          | nothingCached isUnchanged => exact absurd isUnchanged unchanged
          | announced _ announced above => exact .inr (.inl ⟨_, announced, above⟩)
          | oversize _ above => exact .inr (.inr (.inr above))
          | broken _ broken => exact .inr (.inr (.inl ⟨_, broken⟩))

/-! ## The poll -/

/-- A table is not decoded when it is not UTF-8, or when it is not accepted. -/
theorem decode_eq_error_iff {foreign : Foreign} {body : Bytes} :
    (∃ stop, decode foreign body = .error stop) ↔
      Text.fromUtf8 body = none ∨
        ∃ text stop, Text.fromUtf8 body = some text ∧
          Clients.parse foreign.csv text = .error stop := by
  rw [decode, fromUtf8]
  cases Text.fromUtf8 body with
  | none => simp [Outcome.fail, Outcome.context]
  | some text => simp

/-- The ways in which a poll fails. -/
inductive PollFails (foreign : Foreign) (path : PathBuf) (round : Round) (memory : Memory)
    (before : StateDir) : Prop where
  | refused : Refuses memory.cache round.answer → PollFails foreign path round memory before
  | undecoded {download : Download} :
      fetch foreign memory.cache round.answer = .ok (some download) →
        memory.cache.body ≠ some download.body →
          (Text.fromUtf8 download.body = none ∨ ∃ text stop,
            Text.fromUtf8 download.body = some text ∧
              Clients.parse foreign.csv text = .error stop) →
            PollFails foreign path round memory before
  | unsaved {download : Download} {clients : Clients} {stop : Stop} :
      Brings foreign memory round.answer download clients →
        ((persistBlocking foreign.ioText path download.body memory.pid memory.sequence).run
          (FileCall.device round.faults) before).1.1 = .error stop →
            PollFails foreign path round memory before

section Poll

variable (foreign : Foreign) (path : PathBuf) (round : Round) (memory : Memory)
  (before : StateDir)

/-- The result of an update is that of persisting. -/
theorem result_update (download : Download) (clients : Clients) :
    ((update foreign path round.activated memory download clients).run
        (FileCall.device round.faults) before).1.1 =
      Outcome.context "save client snapshot"
        ((persistBlocking foreign.ioText path download.body memory.pid memory.sequence).run
          (FileCall.device round.faults) before).1.1 := by
  rw [update, Program.run_bind]
  obtain ⟨⟨saved, sequence⟩, after⟩ :=
    (persistBlocking foreign.ioText path download.body memory.pid memory.sequence).run
      (FileCall.device round.faults) before
  cases saved with
  | error stop => rfl
  | ok _ => rfl

/-- Every listed way makes the poll fail. -/
theorem fails_of_pollFails (fails : PollFails foreign path round memory before) :
    ∃ stop, ((poll foreign path round.activated round.answer memory).run
      (FileCall.device round.faults) before).1.1 = .error stop := by
  cases fails with
  | refused refuses =>
      obtain ⟨stop, refused⟩ := fetch_eq_error_iff.mpr refuses
      rw [poll_of_rejects path round.activated (.fetch refused)]
      exact ⟨stop, rfl⟩
  | undecoded fetched new undecoded =>
      obtain ⟨stop, refused⟩ := decode_eq_error_iff.mpr undecoded
      rw [poll_of_rejects path round.activated (.decode fetched new refused)]
      exact ⟨stop, rfl⟩
  | unsaved brings unsaved =>
      rw [poll_of_brings path round.activated brings, result_update, unsaved]
      exact Outcome.context_error _ _

/-- There is no other way. -/
theorem pollFails_of_fails {stop : Stop}
    (failed : ((poll foreign path round.activated round.answer memory).run
      (FileCall.device round.faults) before).1.1 = .error stop) :
    PollFails foreign path round memory before := by
  cases meaning foreign memory round.answer with
  | rejected rejects =>
      cases rejects with
      | fetch refused => exact .refused (fetch_eq_error_iff.mp ⟨_, refused⟩)
      | decode fetched new refused =>
          exact .undecoded fetched new (decode_eq_error_iff.mp ⟨_, refused⟩)
  | unchanged fetched =>
      rw [poll_of_unchanged path round.activated fetched] at failed
      cases failed
  | same fetched cached =>
      rw [poll_of_same path round.activated fetched cached] at failed
      cases failed
  | @new download clients brings =>
      rw [poll_of_brings path round.activated brings, result_update] at failed
      cases saved : ((persistBlocking foreign.ioText path download.body memory.pid
          memory.sequence).run (FileCall.device round.faults) before).1.1 with
      | error stop => exact .unsaved brings saved
      | ok _ =>
          rw [saved] at failed
          cases failed

end Poll

/-! ## What a failure leaves -/

/-- What is served and what is known of it. -/
structure SameData (before after : Memory) : Prop where
  snapshot : after.shared.snapshot = before.shared.snapshot
  cache : after.cache = before.cache
  source : after.shared.status.source = before.shared.status.source
  dataSince : after.shared.status.dataSince = before.shared.status.dataSince

/-- What a failed poll leaves of the directory: it made no call, or it failed to
persist a new table. -/
def Leaves (foreign : Foreign) (path : PathBuf) (round : Round) (memory : Memory)
    (before after : StateDir) (stop : Stop) : Prop :=
  (poll foreign path round.activated round.answer memory = .ret (.error stop, memory) ∧
      after = before) ∨
    ∃ download clients cause, Brings foreign memory round.answer download clients ∧
      ((persistBlocking foreign.ioText path download.body memory.pid memory.sequence).run
        (FileCall.device round.faults) before).1.1 = .error cause ∧
      Outcome.context "save client snapshot" (.error cause : Outcome Unit) = .error stop

/-- **A poll that fails** leaves the data as it was. -/
theorem sameData_of_polled {foreign : Foreign} {path : PathBuf} {round : Round}
    {memory polled : Memory} {before after : StateDir} {result : Outcome Unit} {stop : Stop}
    (ends : Polled foreign path round memory before result polled after)
    (failed : result = .error stop) : SameData memory polled := by
  cases ends with
  | rejected => exact ⟨rfl, rfl, rfl, rfl⟩
  | unchanged => cases failed
  | same => cases failed
  | unsaved => exact ⟨rfl, rfl, rfl, rfl⟩
  | saved => cases failed

/-- It leaves the directory as it was, or it failed to persist a table. -/
theorem leaves_of_fails {foreign : Foreign} {path : PathBuf} {round : Round} {memory : Memory}
    {before : StateDir} {stop : Stop}
    (failed : ((poll foreign path round.activated round.answer memory).run
      (FileCall.device round.faults) before).1.1 = .error stop) :
    Leaves foreign path round memory before
      ((poll foreign path round.activated round.answer memory).run
        (FileCall.device round.faults) before).2 stop := by
  have rejected : ∀ {other : Stop}, Rejects foreign memory round.answer other →
      Leaves foreign path round memory before
        ((poll foreign path round.activated round.answer memory).run
          (FileCall.device round.faults) before).2 stop := by
    intro other rejects
    have ends := poll_of_rejects path round.activated rejects
    rw [ends] at failed ⊢
    obtain rfl : other = stop := Except.error.inj failed
    exact .inl ⟨ends, rfl⟩
  cases pollFails_of_fails foreign path round memory before failed with
  | refused refuses =>
      obtain ⟨_, refused⟩ := fetch_eq_error_iff.mpr refuses
      exact rejected (.fetch refused)
  | undecoded fetched new undecoded =>
      obtain ⟨_, refused⟩ := decode_eq_error_iff.mpr undecoded
      exact rejected (.decode fetched new refused)
  | unsaved brings unsaved =>
      refine .inr ⟨_, _, _, brings, unsaved, ?_⟩
      rw [← failed, poll_of_brings path round.activated brings, result_update, unsaved]

/-- A turn of the loop keeps a table that is present. -/
theorem isSome_snapshot_round {foreign : Foreign} {path : PathBuf} {system : System}
    (round : Round) (isPresent : system.memory.shared.snapshot.isSome = true) :
    (system.round foreign path round).2.memory.shared.snapshot.isSome = true := by
  obtain ⟨result, memory, dir, turn, polled⟩ := round_polled foreign path system round
  rw [turn, record_snapshot]
  cases polled with
  | rejected => exact isPresent
  | unchanged => exact isPresent
  | same => exact isPresent
  | unsaved => exact isPresent
  | saved => rfl

/-- **A failed poll changes nothing that is served.** From every memory and
directory, whatever the answer and the faults are: a poll fails exactly in the
listed ways, it leaves the active table, the cache, the source and the age of the
data as they were, and it makes no call unless it fails to persist a new table.
Over a run a table that is present stays present. -/
theorem failure_keeps_data (foreign : Foreign) (path : PathBuf) :
    (∀ (memory : Memory) (before : StateDir) (round : Round),
      let turn := (poll foreign path round.activated round.answer memory).run
        (FileCall.device round.faults) before
      ((∃ stop, turn.1.1 = .error stop) ↔ PollFails foreign path round memory before) ∧
      ∀ stop, turn.1.1 = .error stop →
        SameData memory turn.1.2 ∧ Leaves foreign path round memory before turn.2 stop) ∧
    (∀ start system, Run foreign path (fun _ _ => True) start system →
      start.memory.shared.snapshot.isSome = true →
        system.memory.shared.snapshot.isSome = true) := by
  constructor
  · intro memory before round turn
    refine ⟨⟨?_, fails_of_pollFails foreign path round memory before⟩, ?_⟩
    · rintro ⟨stop, failed⟩
      exact pollFails_of_fails foreign path round memory before failed
    · intro stop failed
      have ends := (poll_holds foreign path round memory before).ends before rfl
      exact ⟨sameData_of_polled ends failed, leaves_of_fails failed⟩
  · intro start system run isPresent
    induction run with
    | start => exact isPresent
    | round round _ _ ih => exact isSome_snapshot_round round ih

/-- A transport error after the shipped table was downloaded. -/
theorem failure_keeps_data_synced :
    SameData syncedSystem.memory
        ((poll plainForeign shippedPath 0 (.failed ["timeout"]) syncedSystem.memory).run
          (FileCall.device fun _ => none) syncedSystem.dir).1.2 ∧
      (syncedSystem.round plainForeign shippedPath
        ⟨.failed ["timeout"], fun _ => none, 0, 0⟩).2.memory.shared.snapshot.isSome = true := by
  have isPresent : syncedSystem.memory.shared.snapshot.isSome = true := by decide +kernel
  obtain ⟨kept, stays⟩ := failure_keeps_data plainForeign shippedPath
  constructor
  · exact ((kept syncedSystem.memory syncedSystem.dir
      ⟨.failed ["timeout"], fun _ => none, 0, 0⟩).2 _ rfl).1
  · exact stays syncedSystem _ (.round _ .start trivial) isPresent

end Macdack
