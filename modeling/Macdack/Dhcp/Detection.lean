import Macdack.Dhcp.Stage

/-!
# Detecting the boot stage

What the options of a request say about its boot stage, in their own terms: a list
of user classes with a length in front of each, a list of architecture values, and
the text of a vendor class. `Packet.stage` decides exactly this
(`stage_detection`).

A byte string is a list of complete user classes and possibly a truncated one
behind them (`exists_classes`), and the loop over it sees the complete ones
(`classesOf_encode`). The text after `Arch:` is taken between two occurrences in the
source; a second occurrence within the five bytes makes no difference, since a number
has no letters (`vendorFirmware_eq_some_iff`).
-/

set_option autoImplicit false

namespace Macdack

/-! ## The user classes -/

/-- User classes with a length in front of each. -/
def encodeClasses (classes : List Bytes) : Bytes :=
  classes.flatMap fun userClass => UInt8.ofNat userClass.length :: userClass

/-- A class whose length is more than what follows. -/
def TruncatedClass (tail : Bytes) : Prop :=
  ∃ len part, tail = len :: part ∧ part.length < len.toNat

theorem classesOf_cons_append {userClass : Bytes} (short : userClass.length ≤ 255)
    (tail : Bytes) :
    classesOf (UInt8.ofNat userClass.length :: (userClass ++ tail)) =
      userClass :: classesOf tail := by
  have length : (UInt8.ofNat userClass.length).toNat = userClass.length :=
    toNat_ofNat_of_lt (by omega)
  rw [classesOf, length, if_neg (by rw [List.length_append]; omega), List.take_left, List.drop_left]

/-- **The classes in front of anything** are read. -/
theorem classesOf_encode {classes : List Bytes}
    (short : ∀ userClass ∈ classes, userClass.length ≤ 255) (tail : Bytes) :
    classesOf (encodeClasses classes ++ tail) = classes ++ classesOf tail := by
  induction classes with
  | nil => rfl
  | cons userClass classes ih =>
      obtain ⟨head, rest⟩ := List.forall_mem_cons.mp short
      rw [encodeClasses, List.flatMap_cons, List.cons_append, List.cons_append, List.append_assoc,
        ← encodeClasses, classesOf_cons_append head, ih rest]
      rfl

/-- A truncated class is not read. -/
theorem classesOf_truncated {tail : Bytes} (truncated : TruncatedClass tail) :
    classesOf tail = [] := by
  obtain ⟨len, part, rfl, short⟩ := truncated
  rw [classesOf, if_pos short]

/-- The text `iPXE` is not a list of complete classes. -/
theorem encodeClasses_ne_ipxe (classes : List Bytes) : encodeClasses classes ≠ ipxeClass := by
  intro same
  cases classes with
  | nil => cases same
  | cons userClass classes =>
      rw [encodeClasses, List.flatMap_cons, List.cons_append, ipxeClass, List.cons.injEq] at same
      obtain ⟨first, rest⟩ := same
      have total := congrArg List.length rest
      rw [List.length_append] at total
      change userClass.length + _ = 3 at total
      have length := congrArg UInt8.toNat first
      rw [toNat_ofNat_of_lt (by omega)] at length
      change userClass.length = 105 at length
      omega

/-- **A user class option names iPXE** when one of its complete classes does, or
when it is this text as a whole. -/
theorem namesIpxe_encode {classes : List Bytes}
    (short : ∀ userClass ∈ classes, userClass.length ≤ 255) {tail : Bytes}
    (ending : tail = [] ∨ TruncatedClass tail ∧ encodeClasses classes ++ tail ≠ ipxeClass) :
    namesIpxe (encodeClasses classes ++ tail) = true ↔ ipxeClass ∈ classes := by
  have whole : encodeClasses classes ++ tail ≠ ipxeClass := by
    rcases ending with rfl | ⟨-, other⟩
    · rw [List.append_nil]
      exact encodeClasses_ne_ipxe classes
    · exact other
  have nothing : classesOf tail = [] := by
    rcases ending with rfl | ⟨truncated, -⟩
    · rw [classesOf]
    · exact classesOf_truncated truncated
  rw [namesIpxe, beq_false_of_ne whole, Bool.false_or, classesOf_encode short, nothing,
    List.append_nil, List.contains_iff_mem]

/-- **Every byte string** is complete classes and possibly a truncated one. -/
theorem exists_classes (user : Bytes) :
    ∃ classes tail, user = encodeClasses classes ++ tail ∧
      (∀ userClass ∈ classes, userClass.length ≤ 255) ∧ (tail = [] ∨ TruncatedClass tail) := by
  induction user using classesOf.induct with
  | case1 => exact ⟨[], [], rfl, fun _ member => absurd member List.not_mem_nil, .inl rfl⟩
  | case2 len rest short =>
      exact ⟨[], len :: rest, rfl, fun _ member => absurd member List.not_mem_nil,
        .inr ⟨len, rest, rfl, short⟩⟩
  | case3 len rest long ih =>
      obtain ⟨classes, tail, isRest, short, ending⟩ := ih
      have bound := len.toNat_lt
      have length : (rest.take len.toNat).length = len.toNat := by
        rw [List.length_take]
        omega
      refine ⟨rest.take len.toNat :: classes, tail, ?_, ?_, ending⟩
      · rw [encodeClasses, List.flatMap_cons, List.cons_append, List.cons_append,
          List.append_assoc, ← encodeClasses, ← isRest, List.take_append_drop, length,
          UInt8.ofNat_toNat]
      · rw [List.forall_mem_cons]
        exact ⟨by omega, short⟩

/-! ## The architecture list -/

/-- The architecture values that are served, with the stage and the architecture
of each. -/
inductive Recognises : UInt16 → Stage → Architecture → Prop where
  | bios : Recognises 0 .bios .x86_64
  | uefi : Recognises 7 .uefi .x86_64
  | uefiByteCode : Recognises 9 .uefi .x86_64
  | uefiArm : Recognises 11 .uefi .arm64

/-- A value that is not served. -/
def Unrecognised (value : UInt16) : Prop :=
  ∀ stage architecture, ¬Recognises value stage architecture

theorem firmware_eq_some_iff {value : UInt16} {stage : Stage} {architecture : Architecture} :
    firmware value = some (stage, architecture) ↔ Recognises value stage architecture := by
  constructor
  · intro served
    rw [firmware] at served
    split at served
    · rename_i isBios
      cases served
      rw [isBios]
      exact .bios
    split at served
    · rename_i isUefi
      cases served
      rcases isUefi with rfl | rfl
      · exact .uefi
      · exact .uefiByteCode
    split at served
    · rename_i isArm
      cases served
      rw [isArm]
      exact .uefiArm
    · cases served
  · intro recognised
    cases recognised with
    | bios => rfl
    | uefi => rfl
    | uefiByteCode => rfl
    | uefiArm => rfl

theorem firmware_eq_none_iff {value : UInt16} : firmware value = none ↔ Unrecognised value := by
  rw [Option.eq_none_iff_forall_ne_some]
  constructor
  · intro unserved stage architecture recognised
    exact unserved _ (firmware_eq_some_iff.mpr recognised)
  · rintro unrecognised ⟨stage, architecture⟩ served
    exact unrecognised stage architecture (firmware_eq_some_iff.mp served)

/-- The values of an architecture list are its pairs of bytes. -/
theorem map_pairs_be16 (values : List UInt16) :
    (pairs (values.flatMap be16)).map (fun pair => ofBe16 pair.1 pair.2) = values := by
  induction values with
  | nil => rfl
  | cons value values ih =>
      rw [List.flatMap_cons, be16]
      change ofBe16 _ _ :: (pairs (values.flatMap be16)).map _ = _
      rw [ih, ofBe16_be16]

theorem be16_ofBe16 (high low : UInt8) : be16 (ofBe16 high low) = [high, low] := by
  have highBound := high.toNat_lt
  have lowBound := low.toNat_lt
  have value : (ofBe16 high low).toNat = high.toNat * 2 ^ 8 + low.toNat := by
    rw [ofBe16, UInt16.toNat_ofNat', Nat.mod_eq_of_lt (by omega)]
  have first : (high.toNat * 2 ^ 8 + low.toNat) / 2 ^ 8 = high.toNat := by omega
  have second : (high.toNat * 2 ^ 8 + low.toNat) % 2 ^ 8 = low.toNat := by omega
  rw [be16, value, first, second, UInt8.ofNat_toNat, UInt8.ofNat_toNat]

/-- An even number of bytes is a list of values. -/
theorem exists_values : ∀ value : Bytes, value.length % 2 = 0 →
    ∃ values : List UInt16, value = values.flatMap be16
  | [], _ => ⟨[], rfl⟩
  | [_], odd => by cases odd
  | high :: low :: rest, even => by
      rw [List.length_cons, List.length_cons] at even
      obtain ⟨values, isValues⟩ := exists_values rest (by omega)
      refine ⟨ofBe16 high low :: values, ?_⟩
      rw [List.flatMap_cons, be16_ofBe16, ← isValues]
      rfl

theorem listedFirmware_be16 (values : List UInt16) :
    listedFirmware (values.flatMap be16) = values.findSome? firmware := by
  have flat : ((pairs (values.flatMap be16)).map fun pair => ofBe16 pair.1 pair.2).findSome?
      firmware = listedFirmware (values.flatMap be16) := List.findSome?_map
  rw [← flat, map_pairs_be16]

/-! ## The vendor class -/

/-- The vendor class is a text that names the value: the first five bytes behind
its first `Arch:` are a number. -/
def VendorNames (vendor : Bytes) (value : UInt16) : Prop :=
  ∃ (text : String) (before digits rest : List Char),
    Text.fromUtf8 vendor = some text ∧
    text.toList = before ++ ("Arch:".toList ++ (digits ++ rest)) ∧
    (∀ earlier later, text.toList = earlier ++ ("Arch:".toList ++ later) →
      before.length ≤ earlier.length) ∧
    Text.lengthOf digits = 5 ∧ Text.u16FromStr digits = .ok value

theorem arch_ne_nil : "Arch:".toList ≠ [] := by decide

/-- A number has no letters. -/
theorem notMem_of_u16FromStr {digits : List Char} {value : UInt16}
    (read : Text.u16FromStr digits = .ok value) : 'A' ∉ digits := by
  intro member
  rw [Text.u16FromStr] at read
  cases number : Text.fromStrRadix 10 65536 digits with
  | error stop =>
      rw [number] at read
      cases read
  | ok result =>
      rcases Text.digits_of_fromStrRadix number 'A' member with sign | digit
      · exact absurd sign (by decide)
      · exact absurd digit (by decide)

/-- The first five bytes of the piece behind `Arch:` are those of the whole rest of
the text, when these are a number: a second `Arch:` within them has a letter. -/
theorem getTo_piece {after piece digits : List Char}
    (isPiece : ((Text.splitOnce "Arch:".toList after).map Prod.fst).getD after = piece)
    {value : UInt16} (isNumber : Text.u16FromStr digits = .ok value) :
    Text.getTo 5 piece = some digits ↔ Text.getTo 5 after = some digits := by
  rcases Text.piece_cases arch_ne_nil isPiece with rfl | ⟨later, rfl⟩
  · rfl
  · rw [Text.getTo_eq_some_iff, Text.getTo_eq_some_iff]
    constructor
    · rintro ⟨rest, rfl, length⟩
      exact ⟨_, List.append_assoc _ _ _, length⟩
    · rintro ⟨rest, whole, length⟩
      rcases List.append_eq_append_iff.mp whole with ⟨middle, isDigits, isRest⟩ | ⟨middle, rfl, -⟩
      · cases middle with
        | nil =>
            rw [List.append_nil] at isDigits
            exact ⟨[], by rw [isDigits, List.append_nil], length⟩
        | cons letter middle =>
            have isLetter : 'A' = letter := (List.cons.inj isRest).1
            refine absurd ?_ (notMem_of_u16FromStr isNumber)
            rw [isDigits, isLetter]
            exact List.mem_append_right _ List.mem_cons_self
      · exact ⟨middle, rfl, length⟩

/-- **The type of a vendor class** is that of the value it names. -/
theorem vendorFirmware_eq_some_iff {vendor : Bytes} {stage : Stage}
    {architecture : Architecture} :
    vendorFirmware vendor = some (stage, architecture) ↔
      ∃ value, VendorNames vendor value ∧ Recognises value stage architecture := by
  simp only [vendorFirmware, Option.bind_eq_bind, Option.bind_eq_some_iff,
    Text.getElem?_one_splitText arch_ne_nil, Option.map_eq_some_iff, firmware_eq_some_iff]
  constructor
  · rintro ⟨text, isText, piece, ⟨⟨before, after⟩, split, isPiece⟩, digits, front, value, number,
      recognised⟩
    obtain ⟨result, isNumber⟩ : ∃ result, Text.u16FromStr digits = .ok result := by
      cases read : Text.u16FromStr digits with
      | ok result => exact ⟨result, rfl⟩
      | error stop =>
          rw [read] at number
          cases number
    rw [isNumber] at number
    cases number
    obtain ⟨whole, first⟩ := (Text.splitOnce_eq_some_iff arch_ne_nil).mp split
    obtain ⟨rest, rfl, length⟩ := Text.getTo_eq_some_iff.mp
      ((getTo_piece isPiece isNumber).mp front)
    exact ⟨value, ⟨text, before, digits, rest, isText, whole, first, length, isNumber⟩, recognised⟩
  · rintro ⟨value, ⟨text, before, digits, rest, isText, whole, first, length, isNumber⟩,
      recognised⟩
    refine ⟨text, isText, _, ⟨(before, digits ++ rest),
      (Text.splitOnce_eq_some_iff arch_ne_nil).mpr ⟨whole, first⟩, rfl⟩, digits,
      (getTo_piece rfl isNumber).mpr (Text.getTo_eq_some_iff.mpr ⟨rest, rfl, length⟩), value, ?_,
      recognised⟩
    rw [isNumber]
    rfl

/-! ## The detection -/

/-- What the architecture list and the vendor class say: the first value of the
list that is served, else the value that the vendor class names, else nothing. -/
inductive Detected (values : List UInt16) (vendor : Bytes) : Stage → Architecture → Prop where
  | listed {before after : List UInt16} {value : UInt16} {stage : Stage}
      {architecture : Architecture} (split : values = before ++ value :: after)
      (first : ∀ earlier ∈ before, Unrecognised earlier)
      (recognised : Recognises value stage architecture) : Detected values vendor stage architecture
  | named {value : UInt16} {stage : Stage} {architecture : Architecture}
      (unlisted : ∀ value ∈ values, Unrecognised value) (names : VendorNames vendor value)
      (recognised : Recognises value stage architecture) : Detected values vendor stage architecture
  | unknown (unlisted : ∀ value ∈ values, Unrecognised value)
      (unnamed : ∀ value, VendorNames vendor value → Unrecognised value) :
      Detected values vendor .unknown .unknown

/-- The value that the program computes. -/
def detection (values : List UInt16) (vendor : Bytes) : Stage × Architecture :=
  ((values.findSome? firmware).or (vendorFirmware vendor)).getD (.unknown, .unknown)

theorem findSome?_firmware_eq_none_iff {values : List UInt16} :
    values.findSome? firmware = none ↔ ∀ value ∈ values, Unrecognised value := by
  rw [List.findSome?_eq_none_iff]
  simp only [firmware_eq_none_iff]

/-- **The program computes what is detected**, and nothing else is. -/
theorem detected_iff {values : List UInt16} {vendor : Bytes} {stage : Stage}
    {architecture : Architecture} :
    Detected values vendor stage architecture ↔
      detection values vendor = (stage, architecture) := by
  rw [detection]
  constructor
  · intro detected
    cases detected with
    | listed split first recognised =>
        have found : values.findSome? firmware = some (stage, architecture) := by
          rw [split, List.findSome?_append, findSome?_firmware_eq_none_iff.mpr first,
            List.findSome?_cons, firmware_eq_some_iff.mpr recognised]
          rfl
        rw [found]
        rfl
    | named unlisted names recognised =>
        rw [findSome?_firmware_eq_none_iff.mpr unlisted,
          vendorFirmware_eq_some_iff.mpr ⟨_, names, recognised⟩]
        rfl
    | unknown unlisted unnamed =>
        have nothing : vendorFirmware vendor = none := by
          rw [Option.eq_none_iff_forall_ne_some]
          rintro ⟨stage, architecture⟩ found
          obtain ⟨value, names, recognised⟩ := vendorFirmware_eq_some_iff.mp found
          exact unnamed value names stage architecture recognised
        rw [findSome?_firmware_eq_none_iff.mpr unlisted, nothing]
        rfl
  · intro computed
    cases listed : values.findSome? firmware with
    | some pair =>
        rw [listed] at computed
        change pair = (stage, architecture) at computed
        subst computed
        obtain ⟨before, value, after, split, served, first⟩ := List.findSome?_eq_some_iff.mp listed
        exact .listed split (fun earlier member => firmware_eq_none_iff.mp (first earlier member))
          (firmware_eq_some_iff.mp served)
    | none =>
        have unlisted := findSome?_firmware_eq_none_iff.mp listed
        rw [listed] at computed
        cases named : vendorFirmware vendor with
        | some pair =>
            rw [named] at computed
            change pair = (stage, architecture) at computed
            subst computed
            obtain ⟨value, names, recognised⟩ := vendorFirmware_eq_some_iff.mp named
            exact .named unlisted names recognised
        | none =>
            rw [named] at computed
            cases computed
            refine .unknown unlisted ?_
            intro value names stage architecture recognised
            rw [vendorFirmware_eq_some_iff.mpr ⟨value, names, recognised⟩] at named
            cases named

/-- Nothing else is detected. -/
theorem detected_iff_eq {values : List UInt16} {vendor : Bytes} {stage : Stage}
    {architecture : Architecture} :
    Detected values vendor stage architecture ↔
      stage = (detection values vendor).1 ∧ architecture = (detection values vendor).2 := by
  rw [detected_iff, Prod.ext_iff]
  exact and_congr eq_comm eq_comm

/-- A detected stage is that of a firmware or unknown. -/
theorem detected_stage {values : List UInt16} {vendor : Bytes} {stage : Stage}
    {architecture : Architecture} (detected : Detected values vendor stage architecture) :
    stage ≠ .ipxe ∧ stage ≠ .os := by
  have recognisedStage : ∀ {value : UInt16}, Recognises value stage architecture →
      stage ≠ .ipxe ∧ stage ≠ .os := by
    intro value recognised
    cases recognised with
    | bios => exact ⟨by decide, by decide⟩
    | uefi => exact ⟨by decide, by decide⟩
    | uefiByteCode => exact ⟨by decide, by decide⟩
    | uefiArm => exact ⟨by decide, by decide⟩
  cases detected with
  | listed _ _ recognised => exact recognisedStage recognised
  | named _ _ recognised => exact recognisedStage recognised
  | unknown _ _ => exact ⟨by decide, by decide⟩

/-! ## The stage of a request -/

namespace Packet

/-- The user class option, or nothing. -/
def userClasses (packet : Packet) : Bytes := packet.options[(77 : UInt8)]?.getD []

/-- The vendor class, or nothing. -/
def vendorClass (packet : Packet) : Bytes := packet.options[(60 : UInt8)]?.getD []

/-- The option of the architecture list has the values, none without the
option. -/
def Lists (packet : Packet) (values : List UInt16) : Prop :=
  packet.options[(93 : UInt8)]?.getD [] = values.flatMap be16

/-- The request is neither from a served architecture nor from a PXE client. -/
def Booted (packet : Packet) (values : List UInt16) : Prop :=
  (∀ value ∈ values, Unrecognised value) ∧ ¬pxeClient <+: packet.vendorClass

/-- What the stage and the architecture of a request with the listed values are. -/
structure Classified (packet : Packet) (values : List UInt16) (stage : Stage)
    (architecture : Architecture) : Prop where
  classes : ∀ classes tail, (∀ userClass ∈ classes, userClass.length ≤ 255) →
    packet.options[(77 : UInt8)]? = some (encodeClasses classes ++ tail) →
      (tail = [] ∨ TruncatedClass tail ∧ encodeClasses classes ++ tail ≠ ipxeClass) →
        (stage = .ipxe ↔ ipxeClass ∈ classes)
  raw : packet.options[(77 : UInt8)]? = some ipxeClass → stage = .ipxe
  absent : packet.options[(77 : UInt8)]? = none → stage ≠ .ipxe
  booted : stage ≠ .ipxe → ((stage = .os ∧ architecture = .unknown) ↔ packet.Booted values)
  detected : ∃ detectedStage detectedArchitecture,
    (∀ other otherArchitecture, Detected values packet.vendorClass other otherArchitecture ↔
      other = detectedStage ∧ otherArchitecture = detectedArchitecture) ∧
    (stage = .ipxe → architecture = detectedArchitecture) ∧
    (stage ≠ .ipxe → ¬packet.Booted values →
      stage = detectedStage ∧ architecture = detectedArchitecture)

theorem exists_lists {packet : Packet} (rules : Rules packet.options packet.message) :
    ∃ values, packet.Lists values := by
  refine exists_values _ ?_
  cases found : packet.options[(93 : UInt8)]? with
  | none => rfl
  | some value => exact (rules.architectures value found).2

/-- The first served type of the option is that of its values. -/
theorem listed_eq {packet : Packet} {values : List UInt16} (lists : packet.Lists values) :
    packet.options[(93 : UInt8)]?.bind listedFirmware = values.findSome? firmware := by
  rw [← listedFirmware_be16, ← lists]
  cases packet.options[(93 : UInt8)]? with
  | none => rfl
  | some value => rfl

/-- **The stage by the classes, the list and the vendor class.** -/
theorem bootStage_cases {packet : Packet} {values : List UInt16} (lists : packet.Lists values) :
    (namesIpxe packet.userClasses = true ∧
      packet.bootStage = (.ipxe, (detection values packet.vendorClass).2)) ∨
    (namesIpxe packet.userClasses = false ∧ packet.Booted values ∧
      packet.bootStage = (.os, .unknown)) ∨
    (namesIpxe packet.userClasses = false ∧ ¬packet.Booted values ∧
      packet.bootStage = detection values packet.vendorClass) := by
  rw [bootStage, listed_eq lists, decideStage, ← userClasses, ← vendorClass, ← detection]
  cases ipxe : namesIpxe packet.userClasses with
  | true =>
      left
      exact ⟨rfl, rfl⟩
  | false =>
      right
      have booted : packet.Booted values ↔
          (pxeClient.isPrefixOf packet.vendorClass || (values.findSome? firmware).isSome) =
            false := by
        rw [Booted, Bool.or_eq_false_iff, ← findSome?_firmware_eq_none_iff,
          ← List.isPrefixOf_iff_prefix, Bool.not_eq_true, Option.isSome_eq_false_iff,
          Option.isNone_iff_eq_none, and_comm]
      rw [booted, Bool.false_or]
      cases signals : pxeClient.isPrefixOf packet.vendorClass ||
          (values.findSome? firmware).isSome with
      | true =>
          right
          exact ⟨rfl, by decide, rfl⟩
      | false =>
          left
          have unlisted : values.findSome? firmware = none := by
            rw [← Option.isNone_iff_eq_none, ← Option.isSome_eq_false_iff]
            exact (Bool.or_eq_false_iff.mp signals).2
          rw [unlisted]
          exact ⟨rfl, rfl, rfl⟩

/-- What is detected is not iPXE and not a booted system. -/
theorem detection_ne (values : List UInt16) (vendor : Bytes) :
    (detection values vendor).1 ≠ .ipxe ∧ (detection values vendor).1 ≠ .os :=
  detected_stage (detected_iff_eq.mpr ⟨rfl, rfl⟩)

/-- The stage is iPXE by the classes only. -/
theorem bootStage_ipxe_iff {packet : Packet} {values : List UInt16} (lists : packet.Lists values) :
    packet.bootStage.1 = .ipxe ↔ namesIpxe packet.userClasses = true := by
  rcases bootStage_cases lists with ⟨named, isStage⟩ | ⟨unnamed, -, isStage⟩ | ⟨unnamed, -, isStage⟩
  · rw [isStage, named]
    exact iff_of_true rfl rfl
  · rw [isStage, unnamed]
    exact iff_of_false nofun nofun
  · rw [isStage, unnamed]
    exact iff_of_false (detection_ne values packet.vendorClass).1 nofun

/-- **The stage and the architecture classify the request.** -/
theorem classified_bootStage {packet : Packet} {values : List UInt16}
    (lists : packet.Lists values) :
    packet.Classified values packet.bootStage.1 packet.bootStage.2 where
  classes := by
    intro classes tail short isOption ending
    rw [bootStage_ipxe_iff lists, userClasses, isOption]
    exact namesIpxe_encode short ending
  raw := by
    intro isOption
    rw [bootStage_ipxe_iff lists, userClasses, isOption]
    decide
  absent := by
    intro noOption
    rw [Ne, bootStage_ipxe_iff lists, userClasses, noOption]
    decide +kernel
  booted := by
    intro other
    rcases bootStage_cases lists with ⟨-, isStage⟩ | ⟨-, booted, isStage⟩ | ⟨-, unbooted, isStage⟩
    · rw [isStage] at other
      exact absurd rfl other
    · rw [isStage]
      exact iff_of_true ⟨rfl, rfl⟩ booted
    · rw [isStage]
      exact iff_of_false (fun isOs => (detection_ne values packet.vendorClass).2 isOs.1) unbooted
  detected := by
    refine ⟨_, _, fun _ _ => detected_iff_eq, ?_, ?_⟩
    · intro ipxe
      rcases bootStage_cases lists with ⟨-, isStage⟩ | ⟨unnamed, -⟩ | ⟨unnamed, -⟩
      · rw [isStage]
      · rw [bootStage_ipxe_iff lists, unnamed] at ipxe
        cases ipxe
      · rw [bootStage_ipxe_iff lists, unnamed] at ipxe
        cases ipxe
    · intro other unbooted
      rcases bootStage_cases lists with ⟨-, isStage⟩ | ⟨-, booted, -⟩ | ⟨-, -, isStage⟩
      · rw [isStage] at other
        exact absurd rfl other
      · exact absurd booted unbooted
      · rw [isStage]
        exact ⟨rfl, rfl⟩

end Packet

/-- **The boot stage is detected on every encoding.** For every parsed datagram
the stage is iPXE exactly when one of the complete user classes is, or the whole
option is this text; a truncated class at the end changes nothing. A request that
is not from iPXE comes from a booted system exactly when it lists no served value
and is not from a PXE client. Otherwise the stage and the architecture, and for
iPXE the architecture, are what the list and the vendor class say. The loop over
the classes returns on every byte string, and every byte string is complete classes
and possibly a truncated one. -/
theorem stage_detection {bytes : Bytes} {packet : Packet}
    (parsed : Packet.parse bytes = .ok packet) :
    (∀ ipxe user, ∃ flag, userClassLoop ipxe user = .ok flag) ∧
    (∀ user, ∃ classes tail, user = encodeClasses classes ++ tail ∧
      (∀ userClass ∈ classes, userClass.length ≤ 255) ∧ (tail = [] ∨ TruncatedClass tail)) ∧
    ∃ values stage architecture, packet.Lists values ∧
      packet.stage = .ok (stage, architecture) ∧
      packet.Classified values stage architecture := by
  refine ⟨fun ipxe user => ⟨_, userClassLoop_eq ipxe user⟩, exists_classes, ?_⟩
  obtain ⟨values, lists⟩ := Packet.exists_lists (Packet.wellFormed_of_parse parsed).rules
  exact ⟨values, _, _, lists, packet.stage_eq, Packet.classified_bootStage lists⟩

/-- A DISCOVER of iPXE in the second user class, from an UEFI machine that lists an
unknown architecture first. -/
theorem stage_detection_ipxe : ∃ packet values,
    Packet.parse (Packet.wire 1 [(77, [1, 88, 4, 105, 80, 88, 69]), (93, [0, 16, 0, 7])]) =
        .ok packet ∧
      packet.stage = .ok (.ipxe, .x86_64) ∧
      packet.Classified values .ipxe .x86_64 := by
  have classified : (Packet.parse (Packet.wire 1
      [(77, [1, 88, 4, 105, 80, 88, 69]), (93, [0, 16, 0, 7])])).toOption.any (fun packet =>
        decide (packet.bootStage = (.ipxe, .x86_64))) = true := by
    decide +kernel
  obtain ⟨packet, parsed, isIpxe⟩ := Outcome.exists_of_any classified
  have isStage : packet.stage = .ok (.ipxe, .x86_64) := by
    rw [Packet.stage_eq, of_decide_eq_true isIpxe]
  obtain ⟨-, -, values, stage, architecture, -, same, known⟩ := stage_detection parsed
  rw [isStage] at same
  cases same
  exact ⟨packet, values, parsed, isStage, known⟩

end Macdack
