import Macdack.Dhcp.Packet

/-!
# Layouts of the options in a datagram

A layout is one area for the options field and, when it is used, one for the
file field and one for the sname field of the header. The options of a datagram
are the fragments of its areas in this order (`Layout.fragments`), and option 52
says which of the two header fields are used (`HeaderAreas.overload`).

`Packet.parse` reads exactly the layouts: it accepts a datagram with a valid
fixed header exactly when its areas form a layout whose options field announces
the header fields used and whose values obey the rules, and the options it gives
are the values of that layout (`Packet.parse_eq_ok_iff_layout`). So parsing
undoes every way of laying out the options, and nothing else is accepted
(`Packet.parse_undoes_layout`).
-/

set_option autoImplicit false

namespace Macdack

open OptionStream (Area)

/-! ## Layouts -/

/-- The areas in the file field and in the sname field of the header, where
these are used. -/
structure HeaderAreas where
  file : Option Area
  sname : Option Area

namespace HeaderAreas

/-- The value of option 52 that announces the header fields used. -/
def overload (header : HeaderAreas) : Option UInt8 :=
  match header.file, header.sname with
  | none, none => none
  | some _, none => some 1
  | none, some _ => some 2
  | some _, some _ => some 3

/-- The fragments of an area that may be unused. -/
def fragmentsIn (area : Option Area) : List (UInt8 × Bytes) :=
  (area.map Area.fragments).getD []

/-- The fragments in the header, the file field first. -/
def fragments (header : HeaderAreas) : List (UInt8 × Bytes) :=
  fragmentsIn header.file ++ fragmentsIn header.sname

/-- The areas are the 128 bytes of the file field and the 64 bytes of the sname
field. -/
structure PlacedIn (header : HeaderAreas) (bytes : Bytes) : Prop where
  file : ∀ area, header.file = some area → Buffer.slice bytes 108 236 = area.render
  sname : ∀ area, header.sname = some area → Buffer.slice bytes 44 108 = area.render

end HeaderAreas

/-- The areas that hold the options of a datagram. -/
structure Layout where
  field : Area
  header : HeaderAreas

namespace Layout

/-- All fragments in the order in which they are read. -/
def fragments (layout : Layout) : List (UInt8 × Bytes) :=
  layout.field.fragments ++ layout.header.fragments

/-- The areas are at their places, the options field behind the cookie. -/
structure PlacedIn (layout : Layout) (bytes : Bytes) : Prop where
  field : bytes.drop 240 = layout.field.render
  header : layout.header.PlacedIn bytes

/-- The options of a message, with option 52 when a header field is used. -/
def announce (layout : Layout) (options : Options) : Options :=
  match layout.header.overload with
  | none => options
  | some overload => options.insert 52 [overload]

/-- The layout holds the options: their values are cut into its fragments, with
the matching option 52 in the options field. -/
structure Carries (layout : Layout) (options : Options) : Prop where
  cuts : Fragments.Cuts (fun code => (layout.announce options)[code]?) layout.fragments
  header : ∀ fragment ∈ layout.header.fragments, fragment.1 ≠ 52

end Layout

/-! ## Reading the areas -/

/-- The values of option 52 that are accepted. -/
theorem overload_cases {overload : UInt8} (bounds : 1 ≤ overload ∧ overload ≤ 3) :
    overload = 1 ∨ overload = 2 ∨ overload = 3 := by
  have low : 1 ≤ overload.toNat := UInt8.le_iff_toNat_le.mp bounds.1
  have high : overload.toNat ≤ 3 := UInt8.le_iff_toNat_le.mp bounds.2
  have cases : overload.toNat = 1 ∨ overload.toNat = 2 ∨ overload.toNat = 3 := by omega
  rcases cases with one | two | three
  · exact .inl (UInt8.toNat_inj.mp one)
  · exact .inr (.inl (UInt8.toNat_inj.mp two))
  · exact .inr (.inr (UInt8.toNat_inj.mp three))

/-- An announced reading: the file field for the low bit and the sname field for
the second. -/
theorem readOverload_of_some {bytes : Bytes} (length : 236 ≤ bytes.length) {options : Options}
    {overload : UInt8} (announced : options[(52 : UInt8)]? = some [overload])
    (bounds : 1 ≤ overload ∧ overload ≤ 3) :
    readOverload bytes options =
      ((if overload &&& 1 ≠ 0 then readOptions (Buffer.slice bytes 108 236) options
        else .ok options) >>= fun options =>
        if overload &&& 2 ≠ 0 then readOptions (Buffer.slice bytes 44 108) options
        else .ok options) := by
  rw [readOverload, announced]
  simp only [decide_eq_true bounds, Outcome.ensure_true, Outcome.bind_ok,
    Buffer.sliceChecked_eq (show 108 ≤ 236 by decide) length,
    Buffer.sliceChecked_eq (show 44 ≤ 108 by decide) (show 108 ≤ bytes.length by omega)]
  split <;> rfl

/-- An option 52 that is accepted is one byte, from 1 to 3. -/
theorem exists_overload_of_readOverload {bytes value : Bytes} {options result : Options}
    (accepted : readOverload bytes options = .ok result)
    (announced : options[(52 : UInt8)]? = some value) :
    ∃ overload, value = [overload] ∧ (1 ≤ overload ∧ overload ≤ 3) := by
  rw [readOverload, announced] at accepted
  split at accepted
  · contradiction
  · rename_i overload isSingle
    rw [Outcome.bind_eq_ok] at accepted
    obtain ⟨_, checked, -⟩ := accepted
    rw [Outcome.ensure_eq_ok, decide_eq_true_eq] at checked
    exact ⟨overload, Option.some.inj isSingle, checked⟩
  · cases accepted

/-- The header fields that are read hold areas, and option 52 announces them. -/
theorem exists_header_of_readOverload {bytes : Bytes} (length : 236 ≤ bytes.length)
    {options result : Options} (accepted : readOverload bytes options = .ok result) :
    ∃ header : HeaderAreas, options[(52 : UInt8)]? = header.overload.map (fun value => [value]) ∧
      header.PlacedIn bytes ∧ result = Fragments.absorb options header.fragments := by
  cases announced : options[(52 : UInt8)]? with
  | none =>
      rw [readOverload, announced, Except.ok.injEq] at accepted
      exact ⟨⟨none, none⟩, rfl, ⟨nofun, nofun⟩, accepted.symm⟩
  | some value =>
      obtain ⟨overload, rfl, bounds⟩ := exists_overload_of_readOverload accepted announced
      rw [readOverload_of_some length announced bounds, Outcome.bind_eq_ok] at accepted
      obtain ⟨between, file, sname⟩ := accepted
      rcases overload_cases bounds with rfl | rfl | rfl
      · rw [if_pos (by decide)] at file
        rw [if_neg (by decide), Except.ok.injEq] at sname
        obtain ⟨area, rendered, rfl⟩ := readOptions_eq_ok_iff.mp file
        subst sname
        refine ⟨⟨some area, none⟩, rfl, ⟨?_, nofun⟩, ?_⟩
        · rintro _ ⟨rfl⟩
          exact rendered.symm
        · exact congrArg _ (List.append_nil _).symm
      · rw [if_neg (by decide), Except.ok.injEq] at file
        rw [if_pos (by decide)] at sname
        subst file
        obtain ⟨area, rendered, rfl⟩ := readOptions_eq_ok_iff.mp sname
        refine ⟨⟨none, some area⟩, rfl, ⟨nofun, ?_⟩, rfl⟩
        rintro _ ⟨rfl⟩
        exact rendered.symm
      · rw [if_pos (by decide)] at file sname
        obtain ⟨fileArea, fileRendered, rfl⟩ := readOptions_eq_ok_iff.mp file
        obtain ⟨snameArea, snameRendered, rfl⟩ := readOptions_eq_ok_iff.mp sname
        refine ⟨⟨some fileArea, some snameArea⟩, rfl, ⟨?_, ?_⟩, ?_⟩
        · rintro _ ⟨rfl⟩
          exact fileRendered.symm
        · rintro _ ⟨rfl⟩
          exact snameRendered.symm
        · exact (Fragments.absorb_append _ _ _).symm

/-- Header fields that are announced and hold areas are read. -/
theorem readOverload_of_placed {bytes : Bytes} (length : 236 ≤ bytes.length) {options : Options}
    {header : HeaderAreas}
    (announced : options[(52 : UInt8)]? = header.overload.map (fun value => [value]))
    (placed : header.PlacedIn bytes) :
    readOverload bytes options = .ok (Fragments.absorb options header.fragments) := by
  obtain ⟨file, sname⟩ := header
  cases file with
  | none =>
      cases sname with
      | none =>
          rw [readOverload, announced]
          rfl
      | some snameArea =>
          rw [readOverload_of_some length announced (by decide), if_neg (by decide),
            Outcome.bind_ok, if_pos (by decide), placed.sname _ rfl, readOptions_render]
          rfl
  | some fileArea =>
      cases sname with
      | none =>
          rw [readOverload_of_some length announced (by decide), if_pos (by decide),
            placed.file _ rfl, readOptions_render, Outcome.bind_ok, if_neg (by decide)]
          exact congrArg (fun frs => Except.ok (Fragments.absorb options frs))
            (List.append_nil _).symm
      | some snameArea =>
          rw [readOverload_of_some length announced (by decide), if_pos (by decide),
            placed.file _ rfl, readOptions_render, Outcome.bind_ok, if_pos (by decide),
            placed.sname _ rfl, readOptions_render, ← Fragments.absorb_append]
          rfl

/-- **Reading the header fields.** It succeeds exactly when option 52 announces
fields that hold areas, or is absent, and it collects their fragments. -/
theorem readOverload_eq_ok_iff {bytes : Bytes} (length : 236 ≤ bytes.length)
    {options result : Options} :
    readOverload bytes options = .ok result ↔
      ∃ header : HeaderAreas, options[(52 : UInt8)]? = header.overload.map (fun value => [value]) ∧
        header.PlacedIn bytes ∧ result = Fragments.absorb options header.fragments := by
  constructor
  · exact exists_header_of_readOverload length
  · rintro ⟨header, announced, placed, rfl⟩
    exact readOverload_of_placed length announced placed

/-! ## The announced options -/

namespace Layout

theorem getElem?_announce_of_ne (layout : Layout) (options : Options) {code : UInt8}
    (other : code ≠ 52) : (layout.announce options)[code]? = options[code]? := by
  rw [announce]
  cases layout.header.overload with
  | none => rfl
  | some overload =>
      rw [Std.ExtTreeMap.getElem?_insert, if_neg]
      rw [Std.compare_eq_iff_eq]
      exact other.symm

theorem getElem?_announce_self (layout : Layout) {options : Options}
    (unused : options[(52 : UInt8)]? = none) :
    (layout.announce options)[(52 : UInt8)]? =
      layout.header.overload.map (fun value => [value]) := by
  rw [announce]
  cases layout.header.overload with
  | none => exact unused
  | some overload => exact Std.ExtTreeMap.getElem?_insert_self

/-- Announcing the header fields does not touch a value that has a rule. -/
theorem rules_announce (layout : Layout) {options : Options} {message : UInt8}
    (rules : Packet.Rules options message) :
    Packet.Rules (layout.announce options) message where
  messageType := by
    rw [layout.getElem?_announce_of_ne options (by decide)]
    exact rules.messageType
  supported := rules.supported
  requested := by
    rw [layout.getElem?_announce_of_ne options (by decide)]
    exact rules.requested
  server := by
    rw [layout.getElem?_announce_of_ne options (by decide)]
    exact rules.server
  maximum := by
    rw [layout.getElem?_announce_of_ne options (by decide)]
    exact rules.maximum
  architectures := by
    rw [layout.getElem?_announce_of_ne options (by decide)]
    exact rules.architectures

/-- The fragments of a layout that carries options collect to them. -/
theorem Carries.absorb_eq {layout : Layout} {options : Options} (carries : layout.Carries options) :
    Fragments.absorb ∅ layout.fragments = layout.announce options := by
  apply Std.ExtTreeMap.ext_getElem?
  intro code
  rw [Fragments.getElem?_absorb_empty]
  exact (Fragments.cuts_iff.mp carries.cuts code).symm

/-- The options field of a layout that carries options announces its header
fields. -/
theorem Carries.gather_overload {layout : Layout} {options : Options}
    (carries : layout.Carries options) (unused : options[(52 : UInt8)]? = none) :
    Fragments.gather 52 layout.field.fragments =
      layout.header.overload.map (fun value => [value]) := by
  have whole := Fragments.cuts_iff.mp carries.cuts 52
  rw [fragments, Fragments.gather_append, Fragments.gather_eq_none_iff.mpr carries.header,
    Option.merge_none_right] at whole
  rw [← whole]
  exact layout.getElem?_announce_self unused

end Layout

/-! ## Parsing layouts -/

namespace Packet

/-- **Which layouts are accepted.** A datagram with a valid fixed header is
parsed exactly when it holds a layout that announces the header fields it uses
and whose values obey the rules. -/
theorem parse_eq_ok_iff_layout {bytes : Bytes} {packet : Packet} :
    parse bytes = .ok packet ↔
      Framed bytes ∧ packet.HeaderFrom bytes ∧ Rules packet.options packet.message ∧
        ∃ layout : Layout, layout.PlacedIn bytes ∧
          Fragments.gather 52 layout.field.fragments =
            layout.header.overload.map (fun value => [value]) ∧
          packet.options = Fragments.absorb ∅ layout.fragments := by
  rw [parse_eq_ok_iff]
  constructor
  · rintro ⟨framed, header, rules, field, read, overload⟩
    have length : 236 ≤ bytes.length := Nat.le_trans (by decide) framed.length
    obtain ⟨area, rendered, rfl⟩ := readOptions_eq_ok_iff.mp read
    obtain ⟨headerAreas, announced, placed, collected⟩ :=
      (readOverload_eq_ok_iff length).mp overload
    rw [Fragments.getElem?_absorb_empty] at announced
    refine ⟨framed, header, rules, ⟨area, headerAreas⟩, ⟨rendered.symm, placed⟩, announced, ?_⟩
    rw [collected, ← Fragments.absorb_append]
    rfl
  · rintro ⟨framed, header, rules, layout, placed, announced, collected⟩
    have length : 236 ≤ bytes.length := Nat.le_trans (by decide) framed.length
    refine ⟨framed, header, rules, Fragments.absorb ∅ layout.field.fragments, ?_, ?_⟩
    · rw [placed.field, readOptions_render]
    · rw [readOverload_eq_ok_iff length]
      refine ⟨layout.header, ?_, placed.header, ?_⟩
      · rw [Fragments.getElem?_absorb_empty]
        exact announced
      · rw [collected, ← Fragments.absorb_append]
        rfl

/-- **Parsing undoes every layout, and accepts nothing else.** However the
values of a message are cut, mixed, padded, ended and placed, the options parsed
are these values, with option 52 when a header field is used. Conversely an
accepted datagram holds a layout, its options field announces the header fields
read, and its options are the values cut into it. -/
theorem parse_undoes_layout :
    (∀ (options : Options) (message : UInt8) (layout : Layout) (bytes : Bytes),
      Rules options message → options[(52 : UInt8)]? = none → layout.Carries options →
        Framed bytes → layout.PlacedIn bytes →
          ∃ packet, parse bytes = .ok packet ∧ packet.options = layout.announce options) ∧
    (∀ (bytes : Bytes) (packet : Packet), parse bytes = .ok packet →
      Rules packet.options packet.message ∧
        ∃ layout : Layout, layout.PlacedIn bytes ∧
          Fragments.gather 52 layout.field.fragments =
            layout.header.overload.map (fun value => [value]) ∧
          Fragments.Cuts (fun code => packet.options[code]?) layout.fragments) := by
  constructor
  · intro options message layout bytes rules unused carries framed placed
    obtain ⟨packet, header, optionsEq, messageEq⟩ :=
      exists_headerFrom framed.length (layout.announce options) message
    refine ⟨packet, parse_eq_ok_iff_layout.mpr ⟨framed, header, ?_, layout, placed,
      carries.gather_overload unused, ?_⟩, optionsEq⟩
    · rw [optionsEq, messageEq]
      exact layout.rules_announce rules
    · rw [optionsEq, carries.absorb_eq]
  · intro bytes packet parsed
    obtain ⟨-, -, rules, layout, placed, announced, collected⟩ := parse_eq_ok_iff_layout.mp parsed
    refine ⟨rules, layout, placed, announced, Fragments.cuts_iff.mpr ?_⟩
    intro code
    rw [collected, Fragments.getElem?_absorb_empty]

/-- A hostname in two pieces, one in the options field behind a pad and one in
the file field, with bytes behind both end marks. -/
def splitLayout : Layout where
  field := {
    items := [.pad, .field ⟨53, [1], by decide, by decide, by decide⟩,
      .field ⟨12, [104], by decide, by decide, by decide⟩,
      .field ⟨52, [1], by decide, by decide, by decide⟩]
    ending := .endMark [9, 9] }
  header := {
    file := some {
      items := [.field ⟨12, [105], by decide, by decide, by decide⟩]
      ending := .endMark (List.replicate 124 7) }
    sname := none }

/-- The datagram of the layout. -/
def splitDatagram : Bytes :=
  [1, 1, 6] ++ List.replicate 105 0 ++ [12, 1, 105, 255] ++ List.replicate 124 7 ++ cookie ++
    splitLayout.field.render

theorem parse_undoes_splitLayout :
    ∃ packet, parse splitDatagram = .ok packet ∧ packet.options[(12 : UInt8)]? = some [104, 105] ∧
      ∃ layout : Layout, layout.PlacedIn splitDatagram := by
  obtain ⟨packet, parsed, options⟩ := parse_undoes_layout.1
    (Fragments.absorb ∅ [(53, [1]), (12, [104, 105])]) 1 splitLayout splitDatagram
    ⟨by decide +kernel, by decide, by decide +kernel, by decide +kernel, by decide +kernel,
      by decide +kernel⟩
    (by decide +kernel)
    ⟨Fragments.cuts_iff.mpr fun code => by
      change (Std.ExtTreeMap.insert _ (52 : UInt8) [1])[code]? =
        Fragments.gather code [(53, [1]), (12, [104]), (52, [1]), (12, [105])]
      rw [Std.ExtTreeMap.getElem?_insert, Fragments.getElem?_absorb_empty]
      simp only [Fragments.gather, Std.compare_eq_iff_eq]
      split_ifs <;> grind, by decide⟩
    ⟨by decide +kernel, by decide +kernel, by decide +kernel⟩
    ⟨by decide +kernel, ⟨by
      intro area used
      cases used
      decide +kernel, nofun⟩⟩
  obtain ⟨-, layout, placed, -⟩ := parse_undoes_layout.2 splitDatagram packet parsed
  exact ⟨packet, parsed, by rw [options]; decide +kernel, layout, placed⟩

end Packet

end Macdack
