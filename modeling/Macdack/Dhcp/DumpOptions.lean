import Macdack.Dhcp.DumpLines

/-!
# The options of a packet dump

The option loop of the dump and `read_options` are two readers of one format, written
apart from each other. `read_options` changes the map that it is given, also when it
fails later on, so `readOptionsInto` keeps what was done to the map beside the result.
Both readers go through one walk (`readOptionsInto_eq`, `recordedEvents_eq`).

`dump_agrees_with_parse` is that every function of the dump returns, and that the loop
visits what `read_options` appends and reports an error exactly when it does.
-/

set_option autoImplicit false

namespace Macdack

/-! ## Reading options into any map -/

/-- `read_options` on a map with the operation that appends to an entry: the result, and
the map that is left. -/
def readOptionsInto {σ : Type} (extend : σ → UInt8 → Bytes → σ) :
    Bytes → σ → Outcome PUnit.{1} × σ
  | [], options => (.ok ⟨⟩, options)
  | code :: rest, options =>
      if code = 255 then (.ok ⟨⟩, options)
      else if code = 0 then readOptionsInto extend rest options
      else
        match rest with
        | [] => (Outcome.fail "missing option length", options)
        | len :: tail =>
            if tail.length < len.toNat then
              (Outcome.fail ("truncated option " ++ toString code), options)
            else
              readOptionsInto extend (tail.drop len.toNat)
                (extend options code (tail.take len.toNat))
termination_by bytes => bytes.length
decreasing_by
  · simp
  · simp only [List.length_drop, List.length_cons]
    omega

/-- The fragments that `read_options` appends, in order. -/
def appendedFragments (bytes : Bytes) : List (UInt8 × Bytes) :=
  (readOptionsInto (fun appended code value => appended ++ [(code, value)]) bytes []).2

/-- The result of a walk: an error if it stops at one. -/
def stopResult (stopped : OptionStream.Stopped) : Outcome PUnit.{1} :=
  match stopped.malformed with
  | none => .ok ⟨⟩
  | some malformed => Outcome.fail (malformedText malformed)

/-- **Reading options** extends the map by the fields of the walk, one after the other. -/
theorem readOptionsInto_eq {σ : Type} (extend : σ → UInt8 → Bytes → σ) (bytes : Bytes)
    (options : σ) : readOptionsInto extend bytes options =
      (stopResult (OptionStream.walk true bytes).2,
        (OptionStream.walk true bytes).1.foldl (fun options field =>
          extend options field.1 field.2) options) := by
  induction bytes, options using readOptionsInto.induct extend with
  | case1 options =>
      rw [readOptionsInto, OptionStream.walk_nil]
      rfl
  | case2 rest options =>
      rw [readOptionsInto.eq_def, OptionStream.walk_end]
      rfl
  | case3 rest options _ ih =>
      rw [readOptionsInto.eq_def, OptionStream.walk_pad]
      exact ih
  | case4 code options nonEnd nonPad =>
      rw [readOptionsInto.eq_def, OptionStream.walk_missing fun _ => ⟨nonEnd, nonPad⟩]
      exact (if_neg nonEnd).trans (if_neg nonPad)
  | case5 code options nonEnd nonPad len tail short =>
      rw [readOptionsInto.eq_def, OptionStream.walk_code fun _ => ⟨nonEnd, nonPad⟩, if_pos short]
      exact (if_neg nonEnd).trans ((if_neg nonPad).trans (if_pos short))
  | case6 code options nonEnd nonPad len tail long ih =>
      rw [readOptionsInto.eq_def, OptionStream.walk_code fun _ => ⟨nonEnd, nonPad⟩, if_neg long]
      exact (if_neg nonEnd).trans ((if_neg nonPad).trans ((if_neg long).trans ih))

theorem foldl_record (fields appended : List (UInt8 × Bytes)) :
    fields.foldl (fun appended field => appended ++ [(field.1, field.2)]) appended =
      appended ++ fields := by
  induction fields generalizing appended with
  | nil => exact (List.append_nil appended).symm
  | cons field fields ih => rw [List.foldl_cons, ih, List.append_assoc, List.singleton_append]

theorem appendedFragments_eq (bytes : Bytes) :
    appendedFragments bytes = (OptionStream.walk true bytes).1 := by
  rw [appendedFragments, readOptionsInto_eq]
  exact foldl_record _ []

/-- **The map that is left** holds the appended fragments, with or without an error, and
without one it is what `readOptions` returns. -/
theorem readOptionsInto_append (bytes : Bytes) (options : Options) :
    (readOptionsInto Fragments.append bytes options).2 =
        Fragments.absorb options (appendedFragments bytes) ∧
      readOptions bytes options =
        (readOptionsInto Fragments.append bytes options).1 >>= fun _ =>
          .ok (readOptionsInto Fragments.append bytes options).2 := by
  rw [readOptionsInto_eq, appendedFragments_eq, readOptions_eq, OptionStream.scan_eq_walk,
    OptionStream.Walk.scanned, stopResult]
  generalize OptionStream.walk true bytes = walk
  have absorbed : walk.1.foldl (fun options field => Fragments.append options field.1 field.2)
      options = Fragments.absorb options walk.1 := rfl
  refine ⟨absorbed, ?_⟩
  cases walk.2.malformed with
  | none => exact congrArg Except.ok absorbed.symm
  | some malformed => rfl

/-! ## The events of the dump -/

/-- The option loop of the dump behind the cookie, with a record of what it visits. -/
def recordedEvents (bytes : Bytes) : Outcome (List DumpEvent) :=
  dumpLoop (fun events event => .ok (events ++ [event])) bytes 240 []

/-- The code and the value that are visited at an event. -/
def DumpEvent.fragment : DumpEvent → Option (UInt8 × Bytes)
  | .option code value => some (code, value)
  | .missingLength _ => none
  | .truncated _ _ => none

theorem foldlM_record (events recorded : List DumpEvent) :
    events.foldlM (fun recorded event => (.ok (recorded ++ [event]) : Outcome (List DumpEvent)))
      recorded = .ok (recorded ++ events) := by
  induction events generalizing recorded with
  | nil => rw [List.foldlM_nil, List.append_nil, Outcome.pure_eq_ok]
  | cons event events ih =>
      rw [List.foldlM_cons, Outcome.bind_ok, ih, List.append_assoc, List.singleton_append]

theorem recordedEvents_eq (bytes : Bytes) :
    recordedEvents bytes = .ok (dumpEvents (OptionStream.walk true (bytes.drop 240))) := by
  rw [recordedEvents, dumpLoop_eq, foldlM_record, List.nil_append]

/-- The fragments of the events of a walk are its fields. -/
theorem filterMap_fragment (walk : OptionStream.Walk) :
    (dumpEvents walk).filterMap DumpEvent.fragment = walk.1 := by
  have stops : (stopEvents walk.2).filterMap DumpEvent.fragment = [] := by
    cases walk.2 <;> rfl
  have fields : (fun field : UInt8 × Bytes =>
      DumpEvent.fragment (.option field.1 field.2)) = some := rfl
  rw [dumpEvents, List.filterMap_append, stops, List.append_nil, List.filterMap_map]
  change List.filterMap (fun field : UInt8 × Bytes =>
    DumpEvent.fragment (.option field.1 field.2)) walk.1 = walk.1
  rw [fields, List.filterMap_some]

/-- An event without a fragment is there exactly if the walk stops at an error. -/
theorem exists_unread_iff (walk : OptionStream.Walk) :
    (∃ event ∈ dumpEvents walk, event.fragment = none) ↔ walk.2.malformed ≠ none := by
  obtain ⟨fields, stopped⟩ := walk
  have read : ∀ event ∈ fields.map (fun field => DumpEvent.option field.1 field.2),
      event.fragment ≠ none := by
    intro event member
    obtain ⟨field, -, rfl⟩ := List.mem_map.mp member
    exact Option.some_ne_none (field.1, field.2)
  simp only [dumpEvents, List.mem_append]
  constructor
  · rintro ⟨event, member | member, unread⟩
    · exact absurd unread (read event member)
    · cases stopped with
      | endMark => cases member
      | exhausted => cases member
      | missingLength code => exact Option.some_ne_none _
      | truncated code declared => exact Option.some_ne_none _
  · intro malformed
    cases stopped with
    | endMark => exact absurd rfl malformed
    | exhausted => exact absurd rfl malformed
    | missingLength code => exact ⟨_, .inr (.head []), rfl⟩
    | truncated code declared => exact ⟨_, .inr (.head []), rfl⟩

/-- Reading options fails exactly if the walk stops at an error. -/
theorem readOptions_error_iff (bytes : Bytes) (options : Options) :
    (∃ stop, readOptions bytes options = .error stop) ↔
      (OptionStream.walk true bytes).2.malformed ≠ none := by
  rw [readOptions_eq, OptionStream.scan_eq_walk, OptionStream.Walk.scanned]
  cases (OptionStream.walk true bytes).2.malformed with
  | none =>
      constructor
      · rintro ⟨_, ⟨⟩⟩
      · intro malformed
        exact absurd rfl malformed
  | some malformed => exact iff_of_true ⟨_, rfl⟩ (Option.some_ne_none malformed)

/-! ## Agreement -/

/-- **The dump agrees with the parser.** Every function of the dump returns on every byte
string. Behind a cookie, the dump is written along the events of its option loop; these
have the fragments that `read_options` appends, in the same order, and one that reports a
malformed option exactly if `read_options` fails. -/
theorem dump_agrees_with_parse (bytes : Bytes) :
    (∃ text, dhcpPacketDump bytes = .ok text) ∧
    (∀ code, ∃ text, optionValue code bytes = .ok text) ∧
    (∃ routes, classlessRoutes bytes = .ok routes) ∧
    (∃ lines, relayInformation bytes = .ok lines) ∧
    (240 ≤ bytes.length → Buffer.slice bytes 236 240 = cookie →
      ∃ front events, recordedEvents bytes = .ok events ∧
        dhcpPacketDump bytes = events.foldlM writeEvent front ∧
        events.filterMap DumpEvent.fragment = appendedFragments (bytes.drop 240) ∧
        ∀ options, (readOptionsInto Fragments.append (bytes.drop 240) options).2 =
            Fragments.absorb options (appendedFragments (bytes.drop 240)) ∧
          ((∃ event ∈ events, event.fragment = none) ↔
            ∃ stop, readOptions (bytes.drop 240) options = .error stop)) := by
  refine ⟨?_, fun code => ?_, ?_, ⟨_, relayInformation_eq bytes⟩, fun long marked => ?_⟩
  · obtain ⟨text, returned, -⟩ := writes_dump bytes
    exact ⟨text, returned⟩
  · obtain ⟨text, returned, -⟩ := writes_optionValue code bytes
    exact ⟨text, returned⟩
  · obtain ⟨routes, returned, -⟩ := exists_classlessRoutes bytes
    exact ⟨routes, returned⟩
  · obtain ⟨front, -, dumped⟩ := exists_front (Nat.le_trans (by decide) long)
    rw [if_pos marked, dumpLoop_eq] at dumped
    refine ⟨_, _, recordedEvents_eq bytes, dumped, ?_, fun options =>
      ⟨(readOptionsInto_append _ options).1, ?_⟩⟩
    · rw [filterMap_fragment, appendedFragments_eq]
    · rw [exists_unread_iff, readOptions_error_iff]

theorem dump_agrees_with_parse_hostname : ∃ events,
    recordedEvents (hostnameRequest 65) = .ok events ∧
      events.filterMap DumpEvent.fragment =
        appendedFragments ((hostnameRequest 65).drop 240) := by
  obtain ⟨-, events, recorded, -, same, -⟩ := (dump_agrees_with_parse (hostnameRequest 65)).2.2.2.2
    (by decide +kernel) (by decide +kernel)
  exact ⟨events, recorded, same⟩

end Macdack
