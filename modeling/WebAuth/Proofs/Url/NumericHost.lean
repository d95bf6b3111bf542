import Mathlib.Data.List.Basic
import WebAuth.Proofs.Url.PlainName
import WebAuth.Url.Host

/-!
# Hosts by number and their notation

An address of version 4 is less than the four octets that its notation shows.  An address of version
6 has eight pieces, and the run of zeros that is left out of its notation can be told from what
stands around it.  So both are determined by their notations.

Main results:

- Theorem `Ipv4.lt_of_parse?`, `Ipv6.length_of_parse?`: what is read as an address.
- Theorem `Ipv4.text_inj`, `Ipv6.text_inj`: an address is determined by its notation.
- Theorem `Ipv4.endsInNumber_text`: the notation of an address of version 4 is no name.
-/

namespace WebAuth

open Text

/-! ## Numerals -/

/-- A numeral ends in the digit for the remainder. -/
theorem toDigits_eq_append {b : Nat} (hb : 1 < b) (n : Nat) :
    Nat.toDigits b n =
      (if n < b then [] else Nat.toDigits b (n / b)) ++ [Nat.digitChar (n % b)] := by
  rw [Nat.toDigits_eq_if hb]
  split
  · rename_i hlt
    rw [Nat.mod_eq_of_lt hlt, List.nil_append]
  · rfl

/-- The characters of a numeral. -/
theorem exists_digitChar_of_mem_toDigits {b : Nat} (hb : 1 < b) {n : Nat} {c : Char}
    (h : c ∈ Nat.toDigits b n) : ∃ d < b, c = Nat.digitChar d := by
  induction n using Nat.strongRecOn with
  | ind n ih =>
      rw [toDigits_eq_append hb, List.mem_append, List.mem_singleton] at h
      rcases h with h | rfl
      · split at h
        · exact absurd h List.not_mem_nil
        · exact ih (n / b) (Nat.div_lt_self (by omega) hb) h
      · exact ⟨n % b, Nat.mod_lt n (by omega), rfl⟩

theorem digitChar_inj {d e : Nat} (hd : d < 16) (he : e < 16)
    (h : Nat.digitChar d = Nat.digitChar e) : d = e := by
  have hall : ∀ d < 16, ∀ e < 16, Nat.digitChar d = Nat.digitChar e → d = e := by decide
  exact hall d hd e he h

/-- A number is determined by its numeral. -/
theorem toDigits_inj {b : Nat} (hb : 1 < b) (hlimit : b ≤ 16) {m n : Nat}
    (h : Nat.toDigits b m = Nat.toDigits b n) : m = n := by
  induction m using Nat.strongRecOn generalizing n with
  | ind m ih =>
      rw [toDigits_eq_append hb m, toDigits_eq_append hb n] at h
      obtain ⟨hfront, hlast⟩ := List.append_inj' h rfl
      have hm := Nat.mod_lt m (show b > 0 by omega)
      have hn := Nat.mod_lt n (show b > 0 by omega)
      have hmod : m % b = n % b :=
        digitChar_inj (by omega) (by omega) (List.singleton_inj.mp hlast)
      have hdiv : m / b = n / b := by
        split at hfront
        · rename_i hsmall
          split at hfront
          · rename_i hsmall'
            rw [Nat.div_eq_of_lt hsmall, Nat.div_eq_of_lt hsmall']
          · exact absurd hfront.symm Nat.toDigits_ne_nil
        · split at hfront
          · exact absurd hfront Nat.toDigits_ne_nil
          · exact ih (m / b) (Nat.div_lt_self (by omega) hb) hfront
      rw [← Nat.div_add_mod m b, ← Nat.div_add_mod n b, hdiv, hmod]

/-- Digits do not delimit parts of an address. -/
theorem isPlainName_toDigits {b : Nat} (hb : 1 < b) (hlimit : b ≤ 16) (n : Nat) :
    IsPlainName (Nat.toDigits b n) := by
  have hall : ∀ d < 16, Label.isForbidden (Nat.digitChar d) = false := by decide
  intro c hc
  obtain ⟨d, hd, rfl⟩ := exists_digitChar_of_mem_toDigits hb hc
  exact hall d (by omega)

/-! ## Version 4 -/

namespace Ipv4

/-- Parts of at most 255 leave the places below them as they are. -/
theorem foldl_places_add_le {leading : List Nat} (h : ∀ n ∈ leading, n ≤ 255) {i : Nat}
    (hlength : i + leading.length ≤ 4) (total : Nat) :
    (leading.zipIdx i).foldl (fun total (n, i) => total + n * Nat.pow 256 (3 - i)) total +
        Nat.pow 256 (4 - (i + leading.length)) ≤ total + Nat.pow 256 (4 - i) := by
  induction leading generalizing i total with
  | nil => exact Nat.le_refl _
  | cons n rest ih =>
      obtain ⟨hn, hrest⟩ := List.forall_mem_cons.mp h
      rw [List.length_cons] at hlength
      rw [List.zipIdx_cons, List.foldl_cons, List.length_cons,
        show i + (rest.length + 1) = i + 1 + rest.length by omega]
      refine Nat.le_trans (ih hrest (by omega) _) ?_
      have hplace : Nat.pow 256 (4 - i) = Nat.pow 256 (3 - i) * 256 := by
        rw [show 4 - i = (3 - i).succ by omega]
        rfl
      have hpart : n * Nat.pow 256 (3 - i) ≤ 255 * Nat.pow 256 (3 - i) :=
        Nat.mul_le_mul_right _ hn
      rw [hplace, show 4 - (i + 1) = 3 - i by omega]
      simp only
      omega

/-- Parts that are put together make an address of four octets. -/
theorem lt_of_combine? {leading : List Nat} {last address : Nat}
    (h : combine? leading last = some address) : address < Nat.pow 256 4 := by
  unfold combine? at h
  split at h
  · rename_i hparts
    obtain ⟨hlast, hall, hlength⟩ := hparts
    have hle : ∀ n ∈ leading, n ≤ 255 := by simpa using hall
    have hsum := foldl_places_add_le hle (i := 0) (by omega) last
    rw [Option.some.inj h, Nat.zero_add, Nat.sub_zero] at hsum
    omega
  · cases h

theorem lt_of_parse? {cs : List Char} {address : Nat} (h : parse? cs = some address) :
    address < Nat.pow 256 4 := by
  obtain ⟨parts, -, h⟩ := Option.bind_eq_some_iff.mp h
  obtain ⟨last, -, h⟩ := Option.bind_eq_some_iff.mp h
  exact lt_of_combine? h

/-- The four parts of the notation. -/
def groups (address : Nat) : List (List Char) :=
  [3, 2, 1, 0].map (fun i => Nat.toDigits 10 (address / Nat.pow 256 i % 256))

theorem toList_text (address : Nat) :
    (text address).toList = ['.'].intercalate (groups address) := by
  simp [text, groups]

theorem splitOn_text (address : Nat) : (text address).toList.splitOn '.' = groups address := by
  rw [toList_text]
  refine List.splitOn_intercalate '.' (fun group hgroup hdot => ?_) (List.cons_ne_nil _ _)
  obtain ⟨i, -, rfl⟩ := List.mem_map.mp hgroup
  exact absurd (Nat.isDigit_of_mem_toDigits (by decide) (by decide) hdot) (by decide)

/-- An address of version 4 is determined by its notation. -/
theorem text_inj {address other : Nat} (haddress : address < Nat.pow 256 4)
    (hother : other < Nat.pow 256 4) (h : text address = text other) : address = other := by
  have hgroups : groups address = groups other := by rw [← splitOn_text, h, splitOn_text]
  have hdigits {m n : Nat} (hmn : Nat.toDigits 10 m = Nat.toDigits 10 n) : m = n :=
    toDigits_inj (by decide) (by decide) hmn
  simp only [groups, List.map_cons, List.map_nil, List.cons.injEq, and_true] at hgroups
  obtain ⟨h3, h2, h1, h0⟩ := hgroups
  have h3 := hdigits h3
  have h2 := hdigits h2
  have h1 := hdigits h1
  have h0 := hdigits h0
  simp only [Nat.pow_eq, Nat.reducePow] at *
  omega

/-- The notation of an address ends in a number. -/
theorem endsInNumber_text (address : Nat) : endsInNumber (text address).toList = true := by
  let last := Nat.toDigits 10 (address / Nat.pow 256 0 % 256)
  have hlast : (groups address).getLast? = some last := rfl
  have hne : last ≠ [] := Nat.toDigits_ne_nil
  have hdigits : last.all Char.isDigit = true :=
    List.all_eq_true.mpr fun c hc => Nat.isDigit_of_mem_toDigits (by decide) (by decide) hc
  have hlabels : labels (text address).toList = groups address := by
    rw [labels, splitOn_text, hlast, if_neg]
    exact fun heq => hne (Option.some.inj heq)
  have hlength : ¬((groups address).length = 1 ∧ (text address).toList.isEmpty = true) :=
    fun h => absurd h.1 (by simp [groups])
  rw [endsInNumber, splitOn_text, if_neg hlength, hlabels, hlast]
  simp [hdigits, hne]

/-- The notation of an address holds digits and full stops. -/
theorem isPlainName_text (address : Nat) : IsPlainName (text address).toList := by
  rw [toList_text]
  refine forall_mem_intercalate (by decide) (fun group hgroup => ?_)
  obtain ⟨i, -, rfl⟩ := List.mem_map.mp hgroup
  exact isPlainName_toDigits (by decide) (by decide) _

end Ipv4

/-! ## Version 6 -/

namespace Ipv6

/-! ### Eight pieces -/

theorem length_of_embedded? {cs : List Char} {pair : List Nat} (h : embedded? cs = some pair) :
    pair.length = 2 := by
  unfold embedded? at h
  obtain ⟨⟨a, cs⟩, -, h⟩ := Option.bind_eq_some_iff.mp h
  obtain ⟨cs, -, h⟩ := Option.bind_eq_some_iff.mp h
  obtain ⟨⟨b, cs⟩, -, h⟩ := Option.bind_eq_some_iff.mp h
  obtain ⟨cs, -, h⟩ := Option.bind_eq_some_iff.mp h
  obtain ⟨⟨c, cs⟩, -, h⟩ := Option.bind_eq_some_iff.mp h
  obtain ⟨cs, -, h⟩ := Option.bind_eq_some_iff.mp h
  obtain ⟨⟨d, cs⟩, -, h⟩ := Option.bind_eq_some_iff.mp h
  simp only at h
  split at h
  · cases h
    rfl
  · cases h

/-- Beside a gap there are at most seven pieces. -/
theorem length_le_of_pieces? {fuel : Nat} {before : Option (List Nat)} {current : List Nat}
    {cs : List Char} {front back : List Nat}
    (h : pieces? fuel before current cs = some (some front, back))
    (hbefore : ∀ f ∈ before, f.length + current.length ≤ 7) : front.length + back.length ≤ 7 := by
  induction fuel generalizing before current cs with
  | zero => cases h
  | succ fuel ih =>
      cases cs with
      | nil =>
          unfold pieces? at h
          cases h
          exact hbefore front rfl
      | cons c rest =>
          have htaken :
              ∀ f ∈ before, f.length + current.length + 1 = placesTaken before current := by
            rintro f rfl
            rw [placesTaken]
            omega
          unfold pieces? at h
          simp only at h
          split at h
          · cases h
          · rename_i hcount
            split at h
            · split at h
              · cases h
              · -- the gap
                rename_i hgap
                obtain rfl : before = none := by simpa using hgap
                rw [placesTaken] at hcount
                refine ih h (fun f hf => ?_)
                obtain rfl := Option.some.inj hf
                rw [List.length_nil]
                omega
            · split at h
              · split at h
                · cases h
                · -- an embedded address
                  obtain ⟨pair, hpair, h⟩ := Option.bind_eq_some_iff.mp h
                  cases h
                  have hlast := htaken front rfl
                  rw [List.length_append, List.length_reverse, length_of_embedded? hpair]
                  omega
              · split at h
                · cases h
                · -- a piece with others behind it
                  refine ih h (fun f hf => ?_)
                  have hmore := htaken f hf
                  rw [List.length_cons]
                  omega
              · -- the last piece
                cases h
                have hlast := htaken front rfl
                rw [List.length_cons]
                omega
              · cases h

/-- What is read as an address has eight pieces. -/
theorem length_of_parse? {cs : List Char} {pieces : List Nat} (h : parse? cs = some pieces) :
    pieces.length = 8 := by
  unfold parse? at h
  generalize hread : (fun start => _ : Option (List Nat) × List Char → Option (List Nat)) = read
    at h
  have hlength {start : Option (List Nat) × List Char} (hstart : ∀ f ∈ start.1, f = [])
      (h : read start = some pieces) : pieces.length = 8 := by
    rw [← hread] at h
    obtain ⟨⟨before, current⟩, hpieces, h⟩ := Option.bind_eq_some_iff.mp h
    cases before with
    | none =>
        simp only at h
        split at h
        · rename_i hlength
          cases h
          rw [List.length_reverse, hlength]
        · cases h
    | some front =>
        cases h
        have hroom := length_le_of_pieces? hpieces (fun f hf => by simp [hstart f hf])
        simp only [List.length_append, List.length_reverse, List.length_replicate]
        omega
  split at h
  · refine hlength (fun f hf => ?_) h
    exact (Option.some.inj hf).symm
  · cases h
  · refine hlength (fun f hf => ?_) h
    cases hf

/-! ### Pieces in groups of digits -/

/-- The numerals of some pieces. -/
def numerals (pieces : List Nat) : List (List Char) := pieces.map (Nat.toDigits 16)

/-- The groups between the colons of some pieces; without pieces there is an empty one. -/
def groupsOf (pieces : List Nat) : List (List Char) :=
  if pieces = [] then [[]] else numerals pieces

/-- The groups between the colons of an address; there is an empty one for the gap. -/
def groups (pieces : List Nat) : List (List Char) :=
  let (start, length) := longestGap pieces
  if length < 2 then groupsOf pieces
  else groupsOf (pieces.take start) ++ [] :: groupsOf (pieces.drop (start + length))

theorem groupsOf_ne_nil (pieces : List Nat) : groupsOf pieces ≠ [] := by
  unfold groupsOf
  split
  · exact List.cons_ne_nil _ _
  · rename_i hne
    exact List.map_eq_nil_iff.not.mpr hne

theorem toList_joined (pieces : List Nat) :
    (joined pieces).toList = [':'].intercalate (groupsOf pieces) := by
  unfold groupsOf
  split
  · rename_i hempty
    rw [hempty]
    rfl
  · simp [joined, numerals, Function.comp_def]

theorem toList_text (pieces : List Nat) :
    (text pieces).toList = [':'].intercalate (groups pieces) := by
  unfold text groups
  simp only
  split
  · exact toList_joined pieces
  · rw [intercalate_append ':' (groupsOf_ne_nil _) (List.cons_ne_nil _ _),
      List.intercalate_cons_of_ne_nil (groupsOf_ne_nil _)]
    simp [toList_joined]

/-- The characters of groups are digits. -/
theorem isPlainName_of_mem_groupsOf {pieces : List Nat} {group : List Char}
    (h : group ∈ groupsOf pieces) : IsPlainName group := by
  unfold groupsOf at h
  split at h
  · obtain rfl := List.mem_singleton.mp h
    exact List.forall_mem_nil _
  · obtain ⟨n, -, rfl⟩ := List.mem_map.mp h
    exact isPlainName_toDigits (by decide) (by decide) n

theorem isPlainName_of_mem_groups {pieces : List Nat} {group : List Char}
    (h : group ∈ groups pieces) : IsPlainName group := by
  unfold groups at h
  simp only at h
  split at h
  · exact isPlainName_of_mem_groupsOf h
  · rcases List.mem_append.mp h with h | h
    · exact isPlainName_of_mem_groupsOf h
    · rcases List.mem_cons.mp h with rfl | h
      · exact List.forall_mem_nil _
      · exact isPlainName_of_mem_groupsOf h

theorem groups_ne_nil (pieces : List Nat) : groups pieces ≠ [] := by
  unfold groups
  simp only
  split
  · exact groupsOf_ne_nil _
  · exact List.append_ne_nil_of_right_ne_nil _ (List.cons_ne_nil _ _)

theorem splitOn_text (pieces : List Nat) : (text pieces).toList.splitOn ':' = groups pieces := by
  rw [toList_text]
  exact List.splitOn_intercalate ':'
    (fun group hgroup => (isPlainName_of_mem_groups hgroup).notMem (by decide)) (groups_ne_nil pieces)

/-! ### The gap -/

/-- The run of zeros that is left out is where it is said to be. -/
theorem longestGap_le_zeros (pieces : List Nat) :
    (longestGap pieces).2 ≤ zeros (pieces.drop (longestGap pieces).1) := by
  have hfold (places : List Nat) (best : Nat × Nat) (hbest : best.2 ≤ zeros (pieces.drop best.1)) :
      let found := places.foldl (fun best i =>
        let run := zeros (pieces.drop i)
        if best.2 < run then (i, run) else best) best
      found.2 ≤ zeros (pieces.drop found.1) := by
    induction places generalizing best with
    | nil => exact hbest
    | cons i rest ih =>
        refine ih _ ?_
        simp only
        split
        · exact Nat.le_refl _
        · exact hbest
  exact hfold _ _ (Nat.zero_le _)

/-- What is left out are zeros. -/
theorem eq_append_zeros (pieces : List Nat) {start length : Nat}
    (h : longestGap pieces = (start, length)) :
    pieces = pieces.take start ++ List.replicate length 0 ++ pieces.drop (start + length) := by
  have hzeros := longestGap_le_zeros pieces
  rw [h] at hzeros
  have hrun : (pieces.drop start).take length = List.replicate length 0 := by
    have htake : (pieces.drop start).takeWhile (· = 0) =
        List.replicate (zeros (pieces.drop start)) 0 := by
      refine List.eq_replicate_iff.mpr ⟨rfl, fun n hn => ?_⟩
      exact of_decide_eq_true (List.all_eq_true.mp List.all_takeWhile n hn)
    rw [← List.takeWhile_append_dropWhile (p := (· = 0)) (l := pieces.drop start), htake,
      List.take_append_of_le_length (by simpa using hzeros), List.take_replicate,
      Nat.min_eq_left hzeros]
  rw [← hrun, ← List.drop_drop, List.append_assoc, List.take_append_drop, List.take_append_drop]

/-- Pieces are determined by their numerals. -/
theorem numerals_inj {pieces other : List Nat} (h : numerals pieces = numerals other) :
    pieces = other :=
  List.map_injective_iff.mpr (fun _ _ => toDigits_inj (by decide) (by decide)) h

theorem isEmpty_eq_false_of_mem_numerals {pieces : List Nat} {numeral : List Char}
    (h : numeral ∈ numerals pieces) : numeral.isEmpty = false := by
  obtain ⟨n, -, rfl⟩ := List.mem_map.mp h
  exact List.isEmpty_eq_false_iff.mpr Nat.toDigits_ne_nil

/-- Pieces are determined by their groups. -/
theorem groupsOf_inj {pieces other : List Nat} (h : groupsOf pieces = groupsOf other) :
    pieces = other := by
  have hnot {pieces : List Nat} : numerals pieces ≠ [[]] := by
    intro heq
    have hmem := heq ▸ List.mem_singleton_self []
    exact absurd (isEmpty_eq_false_of_mem_numerals hmem) (by decide)
  unfold groupsOf at h
  split at h
  · rename_i hpieces
    split at h
    · rename_i hother
      rw [hpieces, hother]
    · exact absurd h.symm hnot
  · split at h
    · exact absurd h hnot
    · exact numerals_inj h

/-- The pieces before a gap and those behind it are determined by the groups. -/
theorem groupsOf_append_inj {front back front' back' : List Nat}
    (h : groupsOf front ++ [] :: groupsOf back = groupsOf front' ++ [] :: groupsOf back') :
    front = front' ∧ back = back' := by
  have hcut (front back : List Nat) : ∃ after : List (List Char),
      after.head?.all List.isEmpty = true ∧
        groupsOf front ++ [] :: groupsOf back = numerals front ++ after := by
    by_cases hempty : front = []
    · exact ⟨[] :: [] :: groupsOf back, rfl, by simp [groupsOf, numerals, hempty]⟩
    · exact ⟨[] :: groupsOf back, rfl, by simp [groupsOf, hempty]⟩
  obtain ⟨after, hafter, hleft⟩ := hcut front back
  obtain ⟨after', hafter', hright⟩ := hcut front' back'
  obtain ⟨hfront, -⟩ := append_inj_of_class (fun _ => isEmpty_eq_false_of_mem_numerals)
    (fun _ => isEmpty_eq_false_of_mem_numerals) hafter hafter' (hleft ▸ hright ▸ h)
  obtain rfl := numerals_inj hfront
  exact ⟨rfl, groupsOf_inj (List.cons.inj (List.append_cancel_left h)).2⟩

/-- An address of version 6 is determined by its notation. -/
theorem text_inj {pieces other : List Nat} (hpieces : pieces.length = 8) (hother : other.length = 8)
    (h : text pieces = text other) : pieces = other := by
  have hgroups : groups pieces = groups other := by rw [← splitOn_text, h, splitOn_text]
  have hnogap {pieces front back : List Nat} (hpieces : pieces.length = 8) :
      groupsOf pieces ≠ groupsOf front ++ [] :: groupsOf back := by
    intro heq
    have hne : pieces ≠ [] := by
      rintro rfl
      cases hpieces
    have hmem : [] ∈ groupsOf pieces := by simp [heq]
    rw [groupsOf, if_neg hne] at hmem
    exact absurd (isEmpty_eq_false_of_mem_numerals hmem) (by decide)
  obtain ⟨start, length, hgap⟩ : ∃ start length, longestGap pieces = (start, length) := ⟨_, _, rfl⟩
  obtain ⟨start', length', hgap'⟩ : ∃ start length, longestGap other = (start, length) :=
    ⟨_, _, rfl⟩
  simp only [groups, hgap, hgap'] at hgroups
  split at hgroups
  · split at hgroups
    · exact groupsOf_inj hgroups
    · exact absurd hgroups (hnogap hpieces)
  · split at hgroups
    · exact absurd hgroups.symm (hnogap hother)
    · obtain ⟨hfront, hback⟩ := groupsOf_append_inj hgroups
      have hwhole := eq_append_zeros pieces hgap
      have hwhole' := eq_append_zeros other hgap'
      rw [← hfront, ← hback] at hwhole'
      have hlength := congrArg List.length hwhole
      have hlength' := congrArg List.length hwhole'
      rw [hpieces] at hlength
      rw [hother] at hlength'
      simp only [List.length_append, List.length_replicate] at hlength hlength'
      rw [hwhole, hwhole', show length = length' by omega]

end Ipv6

end WebAuth
