/-
# The text of an address reads back

Every address is read as what was written: the four numbers of an IPv4 address, the groups of an
IPv6 address on both sides of the zeros that are left out, and the dotted end of a mapped one.  So
the text determines the address.

* `Address.number?_append`: a number is read up to the first character that is no digit;
* `Address.readV4?_dotted`, `Address.readsV6_compressed`: the two kinds of address;
* `Address.read?_text`, `Address.text_injective`: any address.
-/
import FlowIntake.Net.Address.Text
import FlowIntake.Proofs.Decimal.Digits

namespace FlowIntake.Address

/-! ## 1. Numbers -/

/-- The value of a digit of the radix. -/
def digitIn (radix : Nat) (c : Char) : Option Nat := (Hex.digitValue? c).filter (· < radix)

/-- What follows a number: its first character is no digit. -/
def Ends (radix : Nat) (rest : List Char) : Prop :=
  ∀ c ∈ rest.head?, (digitIn radix c).isSome = false

theorem ends_nil (radix : Nat) : Ends radix [] := by
  simp [Ends]

theorem ends_cons {radix : Nat} {c : Char} {cs : List Char}
    (h : (digitIn radix c).isSome = false) : Ends radix (c :: cs) := by
  intro d hd
  rw [List.head?_cons, Option.mem_some_iff] at hd
  rwa [← hd]

variable {radix : Nat} {most : Option Nat} {limit : Nat} {padding : Bool}

/-- **A number is read up to the first character that is no digit.** -/
theorem number?_append {ds rest : List Char} (hds : ∀ c ∈ ds, (digitIn radix c).isSome = true)
    (hrest : Ends radix rest) :
    number? radix most limit padding (ds ++ rest) =
      (number? radix most limit padding ds).map fun p => (p.1, rest) := by
  have htake : ∀ tail, Ends radix tail →
      (ds ++ tail).takeWhile (fun c => (digitIn radix c).isSome) = ds := by
    intro tail htail
    rw [List.takeWhile_append_of_pos hds]
    cases tail with
    | nil => simp
    | cons c cs => simp [htail c rfl]
  have hall := htake [] (ends_nil radix)
  rw [List.append_nil] at hall
  simp only [digitIn] at htake hall
  simp only [number?, htake rest hrest, hall, List.drop_left]
  split
  · rfl
  · rfl

/-- Where no number begins there is none. -/
theorem number?_eq_none {cs : List Char} (h : Ends radix cs) :
    number? radix most limit padding cs = none := by
  have htake : cs.takeWhile (fun c => (digitIn radix c).isSome) = [] := by
    cases cs with
    | nil => rfl
    | cons c cs => simp [h c rfl]
  simp only [digitIn] at htake
  simp only [number?, htake, true_or, ↓reduceIte]

/-! ## 2. IPv4 -/

/-- The decimal digits of an octet are read as that number. -/
theorem number?_byte : ∀ n < 256, number? 10 (some 3) 255 false (Nat.toDigits 10 n) = some (n, []) ∧
    (Nat.toDigits 10 n).all (fun c => (digitIn 10 c).isSome) = true := by
  decide +kernel

theorem number?_octet (b : UInt8) {rest : List Char} (hrest : Ends 10 rest) :
    number? 10 (some 3) 255 false (Nat.toDigits 10 b.toNat ++ rest) = some (b.toNat, rest) := by
  obtain ⟨hread, hdigits⟩ := number?_byte b.toNat b.toNat_lt
  rw [number?_append (List.all_eq_true.mp hdigits) hrest, hread]
  rfl

/-- An address of four octets, octet by octet. -/
theorem octets_four (o : Octets 4) : ∃ a b c d, o.toBytes = [a, b, c, d] := by
  obtain ⟨bs, hbs⟩ := o
  match bs, hbs with
  | [a, b, c, d], _ => exact ⟨a, b, c, d, rfl⟩

theorem toList_dotted {o : Octets 4} {a b c d : UInt8} (h : o.toBytes = [a, b, c, d]) :
    (dotted o).toList = Nat.toDigits 10 a.toNat ++ '.' :: (Nat.toDigits 10 b.toNat ++
      '.' :: (Nat.toDigits 10 c.toNat ++ '.' :: Nat.toDigits 10 d.toNat)) := by
  simp [dotted, h]

/-- The four numbers read back. -/
theorem quad?_dotted {o : Octets 4} {rest : List Char} (hrest : Ends 10 rest) :
    quad? ((dotted o).toList ++ rest) = some (o.toBytes.map UInt8.toNat, rest) := by
  obtain ⟨a, b, c, d, h⟩ := octets_four o
  have hpoint : ∀ cs, Ends 10 ('.' :: cs) := fun cs => ends_cons rfl
  have hmark (cs : List Char) : mark? '.' ('.' :: cs) = some cs := rfl
  rw [toList_dotted h, h]
  simp [quad?, number?_octet, hpoint, hmark, hrest]

/-- **An IPv4 address reads back.** -/
theorem readV4?_dotted (o : Octets 4) : readV4? (dotted o).toList = some (o, []) := by
  have hquad := quad?_dotted (o := o) (ends_nil 10)
  rw [List.append_nil] at hquad
  have hbytes : (o.toBytes.map UInt8.toNat).map UInt8.ofNat = o.toBytes := by
    simp [Function.comp_def]
  rw [readV4?, hquad, Option.map_some]
  dsimp only
  rw [hbytes, Octets.ofBytes_toBytes]

/-! ## 3. Groups -/

/-- The number that hexadecimal digits write. -/
def hexValue (ks : List Nat) : Nat := ks.foldl (fun n k => n * 16 + k) 0

/-- Zeros in front do not count. -/
theorem hexValue_dropWhile (ks : List Nat) : hexValue (ks.dropWhile (· == 0)) = hexValue ks := by
  induction ks with
  | nil => rfl
  | cons k ks ih =>
    rw [List.dropWhile_cons]
    split
    · next hk =>
      rw [ih, beq_iff_eq.1 hk]
      rfl
    · rfl

theorem digitIn_digit : ∀ k < 16, digitIn 16 (Hex.digit k) = some k := by decide

theorem digit_eq_zero : ∀ k < 16, (Hex.digit k == '0') = (k == 0) := by decide

/-- Up to four hexadecimal digits are read as their number. -/
theorem number?_hex {ks : List Nat} (hks : ∀ k ∈ ks, k < 16) (hne : ks ≠ []) (hlen : ks.length ≤ 4)
    (hlimit : hexValue ks ≤ 0xFFFF) :
    number? 16 (some 4) 0xFFFF true (ks.map Hex.digit) = some (hexValue ks, []) := by
  have hdigit : ∀ k ∈ ks, digitIn 16 (Hex.digit k) = some k := fun k hk => digitIn_digit k (hks k hk)
  have htake : (ks.map Hex.digit).takeWhile (fun c => (digitIn 16 c).isSome) = ks.map Hex.digit := by
    rw [List.takeWhile_eq_self_iff]
    exact List.forall_mem_map.2 fun k hk => by rw [hdigit k hk]; rfl
  have hvalue : (ks.map Hex.digit).foldl (fun n c => n * 16 + (digitIn 16 c).getD 0) 0 =
      hexValue ks := by
    rw [List.foldl_map, hexValue]
    exact List.foldl_ext _ _ 0 fun n k hk => by rw [hdigit k hk]; rfl
  simp only [digitIn] at htake hvalue
  simp only [number?, htake, hvalue, List.length_map]
  rw [if_neg]
  · simp
  · simp [hne, hlen, hlimit]

/-- Zeros in front of the digits stand for zeros in front of their values. -/
theorem dropWhile_digits {ks : List Nat} (hks : ∀ k ∈ ks, k < 16) :
    (ks.map Hex.digit).dropWhile (· == '0') = (ks.dropWhile (· == 0)).map Hex.digit := by
  induction ks with
  | nil => rfl
  | cons k ks ih =>
    obtain ⟨hk, hrest⟩ := List.forall_mem_cons.1 hks
    rw [List.map_cons, List.dropWhile_cons, List.dropWhile_cons, digit_eq_zero k hk, ih hrest]
    split
    · rfl
    · rfl

/-- The last four digits of a group; all digits before them are zeros. -/
theorem padded_group {g : Nat} (hg : g < 65536) : Hex.padded 16 g =
    (List.replicate 12 0 ++ [g / 4096, g / 256 % 16, g / 16 % 16, g % 16]).map Hex.digit := by
  have hhigh : g / 16 / 16 / 16 / 16 = 0 := by omega
  have hfirst : g / 256 / 16 % 16 = g / 4096 := by omega
  have hsecond : g / 16 / 16 = g / 256 := by omega
  simp only [Hex.padded, hhigh]
  simp [hfirst, hsecond]

/-- The digits of a group, the zeros in front of it left out. -/
theorem ofNat_group {g : Nat} (hg : g < 65536) :
    ∃ ks : List Nat, Hex.ofNat g = ks.map Hex.digit ∧ (∀ k ∈ ks, k < 16) ∧ ks ≠ [] ∧
      ks.length ≤ 4 ∧ hexValue ks = g := by
  have hfour : ∀ k ∈ [g / 4096, g / 256 % 16, g / 16 % 16, g % 16], k < 16 := by
    simp
    omega
  have hvalue : hexValue [g / 4096, g / 256 % 16, g / 16 % 16, g % 16] = g := by
    simp only [hexValue, List.foldl_cons, List.foldl_nil]
    omega
  have hdrop : (Hex.padded 16 g).dropWhile (· == '0') =
      ([g / 4096, g / 256 % 16, g / 16 % 16, g % 16].dropWhile (· == 0)).map Hex.digit := by
    rw [padded_group hg, ← dropWhile_digits hfour]
    simp [List.replicate, Hex.digit]
  have hlength : [g / 4096, g / 256 % 16, g / 16 % 16, g % 16].length = 4 := rfl
  generalize [g / 4096, g / 256 % 16, g / 16 % 16, g % 16] = four at hfour hvalue hdrop hlength
  rw [Hex.ofNat, hdrop]
  cases hks : four.dropWhile (· == 0) with
  | nil =>
    -- All digits are zeros: one of them is written.
    have hzero : hexValue [] = g := by
      rw [← hks, hexValue_dropWhile, hvalue]
    exact ⟨[0], rfl, by simp, by simp, by simp, hzero⟩
  | cons k ks =>
    refine ⟨k :: ks, rfl, fun j hj => ?_, by simp, ?_, ?_⟩
    · rw [← hks] at hj
      exact hfour j ((List.dropWhile_sublist _).subset hj)
    · rw [← hks, ← hlength]
      exact (List.dropWhile_sublist _).length_le
    · rw [← hks, hexValue_dropWhile, hvalue]

/-- What follows a group: nothing or a colon. -/
def Stops (rest : List Char) : Prop := rest = [] ∨ ∃ cs, rest = ':' :: cs

theorem Stops.ends {rest : List Char} (h : Stops rest) (radix : Nat) : Ends radix rest := by
  rcases h with rfl | ⟨cs, rfl⟩
  · exact ends_nil radix
  · exact ends_cons rfl

/-- A group is read as its number. -/
theorem number?_group {g : Nat} (hg : g < 65536) {rest : List Char} (hrest : Stops rest) :
    number? 16 (some 4) 0xFFFF true (Hex.ofNat g ++ rest) = some (g, rest) := by
  obtain ⟨ks, hof, hks, hne, hlen, hvalue⟩ := ofNat_group hg
  have hdigits : ∀ c ∈ ks.map Hex.digit, (digitIn 16 c).isSome = true :=
    List.forall_mem_map.2 fun k hk => by
      rw [digitIn_digit k (hks k hk)]
      rfl
  rw [hof, number?_append hdigits (hrest.ends 16), number?_hex hks hne hlen (by omega), hvalue]
  rfl

/-- A number ends where its digits do. -/
theorem rest_of_number? {cs rest : List Char} {n : Nat}
    (h : number? radix most limit padding cs = some (n, rest)) :
    rest = cs.dropWhile fun c => (digitIn radix c).isSome := by
  have hdrop (p : Char → Bool) : cs.drop (cs.takeWhile p).length = cs.dropWhile p := calc
    cs.drop (cs.takeWhile p).length
        = (cs.takeWhile p ++ cs.dropWhile p).drop (cs.takeWhile p).length := by
          rw [List.takeWhile_append_dropWhile]
    _ = cs.dropWhile p := List.drop_left
  simp only [number?] at h
  split at h
  · cases h
  · rw [← hdrop, ← (Prod.mk.inj (Option.some.inj h)).2]
    rfl

/-- Without a point after the first number there are no four numbers. -/
theorem quad?_eq_none {cs : List Char}
    (h : mark? '.' (cs.dropWhile fun c => (digitIn 10 c).isSome) = none) : quad? cs = none := by
  cases hnumber : number? 10 (some 3) 255 false cs with
  | none => simp [quad?, hnumber]
  | some p =>
    obtain ⟨n, rest⟩ := p
    rw [← rest_of_number? hnumber] at h
    simp [quad?, hnumber, h]

theorem digit_ne_point : ∀ k < 16, Hex.digit k ≠ '.' := by decide

/-- A group is not the first of four numbers. -/
theorem quad?_group {g : Nat} (hg : g < 65536) {rest : List Char} (hrest : Stops rest) :
    quad? (Hex.ofNat g ++ rest) = none := by
  obtain ⟨ks, hof, hks, -⟩ := ofNat_group hg
  have hpoint : ∀ c ∈ Hex.ofNat g, c ≠ '.' := by
    rw [hof]
    exact List.forall_mem_map.2 fun k hk => digit_ne_point k (hks k hk)
  refine quad?_eq_none ?_
  rw [List.dropWhile_append]
  split
  · -- All of the group is decimal digits.
    rcases hrest with rfl | ⟨cs, rfl⟩
    · rfl
    · rfl
  · next hne =>
    cases hdrop : (Hex.ofNat g).dropWhile fun c => (digitIn 10 c).isSome with
    | nil =>
      rw [hdrop] at hne
      exact absurd rfl hne
    | cons c cs =>
      have hc : c ∈ Hex.ofNat g := (List.dropWhile_sublist _).subset (hdrop ▸ List.mem_cons_self)
      rw [List.cons_append, mark?, if_neg (hpoint c hc).symm]

/-! ## 4. Runs of groups -/

/-- Groups with a colon before each of them. -/
def tailText (gs : List Nat) : List Char := gs.flatMap fun g => ':' :: Hex.ofNat g

theorem toList_colons_cons (g : Nat) (gs : List Nat) :
    (colons (g :: gs)).toList = Hex.ofNat g ++ tailText gs := by
  induction gs generalizing g with
  | nil => simp [colons, tailText]
  | cons next gs ih =>
    have hnext := ih next
    simp only [colons, List.map_cons, String.intercalate_cons_cons] at hnext ⊢
    simp [hnext, tailText]

/-- What may follow a run of groups: nothing, or two colons. -/
def Closes (rest : List Char) : Prop := rest = [] ∨ ∃ cs, rest = ':' :: ':' :: cs

theorem Closes.stops {rest : List Char} (h : Closes rest) : Stops rest := by
  rcases h with rfl | ⟨cs, rfl⟩
  · exact .inl rfl
  · exact .inr ⟨_, rfl⟩

theorem stops_tailText (gs : List Nat) {rest : List Char} (h : Stops rest) :
    Stops (tailText gs ++ rest) := by
  cases gs with
  | nil => exact h
  | cons g gs => exact .inr ⟨_, rfl⟩

/-- Where nothing is written there is neither a number nor four. -/
theorem quad?_of_ends {cs : List Char} (h : Ends 10 cs) : quad? cs = none := by
  simp [quad?, number?_eq_none h]

/-- No group is read after the end of a run. -/
theorem readGroups_closes {rest : List Char} (h : Closes rest) (most : Nat) (first : Bool) :
    readGroups most first rest = ⟨[], false, rest⟩ := by
  cases most with
  | zero => rfl
  | succ most =>
    have hnone (cs : List Char) (hcs : Stops cs) : (if 1 ≤ most then quad? cs else none) = none ∧
        number? 16 (some 4) 0xFFFF true cs = none := by
      refine ⟨?_, number?_eq_none (hcs.ends 16)⟩
      split
      · exact quad?_of_ends (hcs.ends 10)
      · rfl
    rcases h with rfl | ⟨cs, rfl⟩
    · cases first with
      | false => rfl
      | true => simp [readGroups, hnone [] (.inl rfl)]
    · cases first with
      | false =>
        have hmark : mark? ':' (':' :: ':' :: cs) = some (':' :: cs) := rfl
        simp [readGroups, hmark, hnone (':' :: cs) (.inr ⟨cs, rfl⟩)]
      | true => simp [readGroups, hnone (':' :: ':' :: cs) (.inr ⟨_, rfl⟩)]

/-- One group is read, and then the others. -/
theorem readGroups_group {g : Nat} (hg : g < 65536) {rest : List Char} (hrest : Stops rest)
    (most : Nat) (first : Bool) :
    readGroups (most + 1) first ((if first then [] else [':']) ++ (Hex.ofNat g ++ rest)) =
      ⟨g :: (readGroups most false rest).groups, (readGroups most false rest).dotted,
        (readGroups most false rest).rest⟩ := by
  have hquad : (if 1 ≤ most then quad? (Hex.ofNat g ++ rest) else none) = none := by
    rw [quad?_group hg hrest, ite_self]
  cases first with
  | true => simp [readGroups, hquad, number?_group hg hrest]
  | false =>
    have hmark (cs : List Char) : mark? ':' (':' :: cs) = some cs := rfl
    simp [readGroups, hmark, hquad, number?_group hg hrest]

theorem readGroups_tailText {gs : List Nat} (hgs : ∀ g ∈ gs, g < 65536) {rest : List Char}
    (hrest : Closes rest) {most : Nat} (hmost : gs.length ≤ most) :
    readGroups most false (tailText gs ++ rest) = ⟨gs, false, rest⟩ := by
  induction gs generalizing most with
  | nil => exact readGroups_closes hrest most false
  | cons g gs ih =>
    obtain ⟨hg, hlater⟩ := List.forall_mem_cons.1 hgs
    obtain ⟨most, rfl⟩ : ∃ n, most = n + 1 := ⟨most - 1, by
      rw [List.length_cons] at hmost
      omega⟩
    have hgroup := readGroups_group hg (stops_tailText gs hrest.stops) most false
    rw [ih hlater (Nat.le_of_succ_le_succ hmost)] at hgroup
    simpa [tailText] using hgroup

/-- **Groups with colons between them read back**, as many as may be read. -/
theorem readGroups_colons {gs : List Nat} (hgs : ∀ g ∈ gs, g < 65536) {rest : List Char}
    (hrest : Closes rest) {most : Nat} (hmost : gs.length ≤ most) :
    readGroups most true ((colons gs).toList ++ rest) = ⟨gs, false, rest⟩ := by
  cases gs with
  | nil => exact readGroups_closes hrest most true
  | cons g gs =>
    obtain ⟨hg, hlater⟩ := List.forall_mem_cons.1 hgs
    obtain ⟨most, rfl⟩ : ∃ n, most = n + 1 := ⟨most - 1, by
      rw [List.length_cons] at hmost
      omega⟩
    have hgroup := readGroups_group hg (stops_tailText gs hrest.stops) most true
    rw [readGroups_tailText hlater hrest (Nat.le_of_succ_le_succ hmost), if_pos rfl,
      List.nil_append] at hgroup
    rw [toList_colons_cons, List.append_assoc, hgroup]

/-! ## 5. Groups of an address -/

theorem length_groups : ∀ bs : Bytes, (groups bs).length = bs.length / 2
  | [] => rfl
  | [_] => by simp [groups]
  | _ :: _ :: bs => by
    rw [groups, List.length_cons, length_groups bs, List.length_cons, List.length_cons]
    omega

theorem value_pair_lt (hi lo : UInt8) : Bytes.value [hi, lo] < 65536 := by
  have hlt := Bytes.value_lt [hi, lo]
  have hcapacity : Bytes.capacity [hi, lo].length = 65536 := by simp [Bytes.capacity]
  omega

theorem groups_lt : ∀ bs : Bytes, ∀ g ∈ groups bs, g < 65536
  | [] => by simp [groups]
  | [_] => by simp [groups]
  | hi :: lo :: bs => by
    rw [groups]
    exact List.forall_mem_cons.2 ⟨value_pair_lt hi lo, groups_lt bs⟩

/-- The octets of the groups are the octets they were made of. -/
theorem flatMap_groups : ∀ bs : Bytes, bs.length % 2 = 0 → (groups bs).flatMap (Bytes.ofNat 2) = bs
  | [], _ => rfl
  | [_], h => by simp at h
  | hi :: lo :: bs, h => by
    have heven : bs.length % 2 = 0 := by
      rw [List.length_cons, List.length_cons] at h
      omega
    have hpair : Bytes.ofNat 2 (Bytes.value [hi, lo]) = [hi, lo] := Bytes.ofNat_value [hi, lo]
    rw [groups, List.flatMap_cons, flatMap_groups bs heven, hpair]
    rfl

/-- **Eight groups make the address they were taken from.** -/
theorem ofGroups_groups (o : Octets 16) : ofGroups (groups o.toBytes) = o := by
  have heven : o.toBytes.length % 2 = 0 := by
    rw [o.size]
  rw [ofGroups, flatMap_groups o.toBytes heven, Octets.ofBytes_toBytes]

/-- The zeros that a list begins with. -/
theorem leadingZeros_run (gs : List Nat) :
    gs = List.replicate (leadingZeros gs) 0 ++ gs.drop (leadingZeros gs) := by
  induction gs with
  | nil => rfl
  | cons g gs ih =>
    by_cases hg : g = 0
    · have hcount : leadingZeros (g :: gs) = leadingZeros gs + 1 := by simp [leadingZeros, hg]
      rw [hcount, List.replicate_succ, List.cons_append, List.drop_succ_cons, ← ih, hg]
    · have hcount : leadingZeros (g :: gs) = 0 := by simp [leadingZeros, hg]
      rw [hcount]
      rfl

/-- **The longest run of zeros is one**: the list is what comes before it, the zeros, and the
rest. -/
theorem longestZeros_run (gs : List Nat) :
    gs = gs.take (longestZeros gs).1 ++ List.replicate (longestZeros gs).2 0 ++
      gs.drop ((longestZeros gs).1 + (longestZeros gs).2) := by
  induction gs with
  | nil => rfl
  | cons g gs ih =>
    rw [longestZeros]
    dsimp only
    split
    · rw [List.take_zero, List.nil_append, Nat.zero_add]
      exact leadingZeros_run (g :: gs)
    · rw [List.take_succ_cons, Nat.add_right_comm, List.drop_succ_cons, List.cons_append,
        List.cons_append, ← ih]

/-! ## 6. IPv6 -/

/-- Groups are not four numbers. -/
theorem quad?_colons {gs : List Nat} (hgs : ∀ g ∈ gs, g < 65536) {rest : List Char}
    (hrest : Closes rest) : quad? ((colons gs).toList ++ rest) = none := by
  cases gs with
  | nil => exact quad?_of_ends (hrest.stops.ends 10)
  | cons g gs =>
    rw [toList_colons_cons, List.append_assoc]
    exact quad?_group (hgs g List.mem_cons_self) (stops_tailText gs hrest.stops)

/-- A text that reads as the address, and not as four numbers. -/
structure ReadsV6 (cs : List Char) (o : Octets 16) : Prop where
  readV6 : readV6? cs = some (o, [])
  no_quad : quad? cs = none

/-- All eight groups, with nothing left out. -/
theorem readsV6_all (o : Octets 16) : ReadsV6 (colons (groups o.toBytes)).toList o := by
  have hlength : (groups o.toBytes).length = 8 := by
    rw [length_groups, o.size]
  have hread := readGroups_colons (groups_lt o.toBytes) (.inl rfl) (Nat.le_of_eq hlength)
  have hquad := quad?_colons (groups_lt o.toBytes) (.inl rfl)
  rw [List.append_nil] at hread hquad
  refine ⟨?_, hquad⟩
  simp [readV6?, hread, hlength, ofGroups_groups]

/-- Groups on both sides of two colons, which stand for the zeros between them. -/
theorem readsV6_gap {o : Octets 16} {front back : List Nat} {n : Nat} (hn : 0 < n)
    (hgroups : groups o.toBytes = front ++ List.replicate n 0 ++ back) :
    ReadsV6 ((colons front).toList ++ ':' :: ':' :: (colons back).toList) o := by
  have hlength : front.length + n + back.length = 8 := by
    have hall := congrArg List.length hgroups
    rw [length_groups, o.size] at hall
    rw [List.length_append, List.length_append, List.length_replicate] at hall
    exact hall.symm
  have hlt := groups_lt o.toBytes
  rw [hgroups] at hlt
  have hfront : ∀ g ∈ front, g < 65536 := fun g hg => hlt g (by simp [hg])
  have hback : ∀ g ∈ back, g < 65536 := fun g hg => hlt g (by simp [hg])
  have hcloses : Closes (':' :: ':' :: (colons back).toList) := .inr ⟨_, rfl⟩
  refine ⟨?_, quad?_colons hfront hcloses⟩
  have hreadFront := readGroups_colons hfront hcloses (show front.length ≤ 8 by omega)
  have hreadBack := readGroups_colons hback (.inl rfl) (show back.length ≤ 7 - front.length by omega)
  have hgap : 8 - front.length - back.length = n := by omega
  have hshort : front.length ≠ 8 := by omega
  have hmark (cs : List Char) : mark? ':' (':' :: cs) = some cs := rfl
  have hall : ofGroups (front ++ List.replicate n 0 ++ back) = o := by
    rw [← hgroups, ofGroups_groups]
  rw [List.append_nil] at hreadBack
  simpa [readV6?, hreadFront, hshort, hmark, hreadBack, hgap] using hall

/-- The address that maps an IPv4 address. -/
theorem readsV6_mapped {o : Octets 16} {q : Octets 4} (h : mapped? o = some q) :
    ReadsV6 ("::ffff:" ++ dotted q).toList o := by
  have hbytes : o.toBytes = mappedPrefix ++ q.toBytes := by
    rw [mapped?] at h
    split at h
    · next hprefix =>
      have hlast : (o.toBytes.drop 12).length = 4 := by
        rw [List.length_drop, o.size]
      rw [← Option.some.inj h, Octets.toBytes_ofBytes hlast, ← hprefix, List.take_append_drop]
    · cases h
  have htext : ("::ffff:" ++ dotted q).toList =
      ':' :: ':' :: (Hex.ofNat 0xFFFF ++ ':' :: (dotted q).toList) := by
    rw [String.toList_append]
    rfl
  have hcloses : Closes (':' :: ':' :: (Hex.ofNat 0xFFFF ++ ':' :: (dotted q).toList)) :=
    .inr ⟨_, rfl⟩
  have hquad := quad?_dotted (o := q) (ends_nil 10)
  rw [List.append_nil] at hquad
  have hend : readGroups 6 false (':' :: (dotted q).toList) = ⟨groups q.toBytes, true, []⟩ := by
    have hmark (cs : List Char) : mark? ':' (':' :: cs) = some cs := rfl
    simp [readGroups, hmark, hquad, Function.comp_def]
  have hback := readGroups_group (g := 0xFFFF) (by decide) (.inr ⟨(dotted q).toList, rfl⟩) 6 true
  rw [if_pos rfl, List.nil_append, hend] at hback
  rw [htext]
  refine ⟨?_, quad?_of_ends (hcloses.stops.ends 10)⟩
  have hgroups : ofGroups (List.replicate 5 0 ++ 0xFFFF :: groups q.toBytes) = o := by
    have heven : q.toBytes.length % 2 = 0 := by
      rw [q.size]
    have hflat : (List.replicate 5 0 ++ 0xFFFF :: groups q.toBytes).flatMap (Bytes.ofNat 2) =
        o.toBytes := by
      rw [List.flatMap_append, List.flatMap_cons, flatMap_groups q.toBytes heven, hbytes]
      rfl
    rw [ofGroups, hflat, Octets.ofBytes_toBytes]
  have hlength : (groups q.toBytes).length = 2 := by
    rw [length_groups, q.size]
  have hmark (cs : List Char) : mark? ':' (':' :: cs) = some cs := rfl
  simpa [readV6?, readGroups_closes hcloses, hmark, hback, hlength] using hgroups

/-- **An IPv6 address reads back**, whichever form it is written in. -/
theorem readsV6_compressed (o : Octets 16) : ReadsV6 (compressed o).toList o := by
  rw [compressed]
  cases hmapped : mapped? o with
  | some q => exact readsV6_mapped hmapped
  | none =>
    have hrun := longestZeros_run (groups o.toBytes)
    dsimp only
    split
    · exact readsV6_all o
    · next hlong =>
      have hgap := readsV6_gap (by omega) hrun
      rw [String.toList_append, String.toList_append, List.append_assoc]
      exact hgap

/-! ## 7. Any address -/

/-- **The text of an address reads as that address.** -/
theorem read?_text (a : Address) : read? a.text = some a := by
  cases a with
  | v4 o => rw [read?, text, readV4?_dotted]
  | v6 o =>
    obtain ⟨hread, hquad⟩ := readsV6_compressed o
    have hnone : readV4? (compressed o).toList = none := by
      rw [readV4?, hquad]
      rfl
    rw [read?, text, hnone, hread]

/-- Addresses of one text are the same. -/
theorem text_injective {a b : Address} (h : a.text = b.text) : a = b := by
  have ha := read?_text a
  rw [h, read?_text b] at ha
  exact (Option.some.inj ha).symm

end FlowIntake.Address
