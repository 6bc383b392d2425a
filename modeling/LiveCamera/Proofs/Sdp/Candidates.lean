import LiveCamera.Proofs.Text.Lines
import LiveCamera.Sdp
import Mathlib.Data.Bool.AllAny
import Mathlib.Data.List.Infix

/-!
# Candidates with IPv6 addresses

The filter counts colons.  `IsAddress` is the grammar of the texts that stand for an IPv6 address,
with all of their abbreviations; every one of them has two colons in a row or six colons at least
(`IsAddress.colons`), more than a candidate has that is kept.  `advertised_lines` says what becomes
of a description as a whole.
-/

namespace LiveCamera.Sdp

/-! ## Texts of addresses -/

/-- The digits of a group, in upper and lower case. -/
def hexDigits : List Char := "0123456789abcdefABCDEF".toList

/-- Sixteen bits of an address: up to four hexadecimal digits. -/
structure IsGroup (text : List Char) : Prop where
  nonempty : text ≠ []
  short : text.length ≤ 4
  digits : ∀ c ∈ text, c ∈ hexDigits

/-- Eight bits of an IPv4 address: a decimal number. -/
def IsOctet (text : List Char) : Prop := ∃ n ≤ 255, text = Nat.toDigits 10 n

/-- An IPv4 address, which may stand for the last thirty-two bits. -/
def IsQuad (text : List Char) : Prop :=
  ∃ octets : List (List Char), octets.length = 4 ∧ (∀ octet ∈ octets, IsOctet octet) ∧
    text = ['.'].intercalate octets

/-- Parts of an address with colons in between. -/
def joined (parts : List (List Char)) : List Char := [':'].intercalate parts

/-- The texts of IPv6 addresses.  Two colons in a row stand, once, for groups of zeros. -/
inductive IsAddress : List Char → Prop
  | full (groups : List (List Char)) (hgroups : ∀ group ∈ groups, IsGroup group)
      (hlength : groups.length = 8) : IsAddress (joined groups)
  | compressed (front back : List (List Char)) (hfront : ∀ group ∈ front, IsGroup group)
      (hback : ∀ group ∈ back, IsGroup group) (hlength : front.length + back.length < 8) :
      IsAddress (joined front ++ ':' :: ':' :: joined back)
  | mixed (groups : List (List Char)) (quad : List Char)
      (hgroups : ∀ group ∈ groups, IsGroup group) (hquad : IsQuad quad)
      (hlength : groups.length = 6) : IsAddress (joined (groups ++ [quad]))
  | compressedMixed (front back : List (List Char)) (quad : List Char)
      (hfront : ∀ group ∈ front, IsGroup group) (hback : ∀ group ∈ back, IsGroup group)
      (hquad : IsQuad quad) (hlength : front.length + back.length < 6) :
      IsAddress (joined front ++ ':' :: ':' :: joined (back ++ [quad]))

/-! ## Colons -/

theorem length_le_count_joined (parts : List (List Char)) :
    parts.length ≤ (joined parts).count ':' + 1 := by
  induction parts with
  | nil => simp
  | cons part parts ih =>
    cases parts with
    | nil => simp
    | cons next rest =>
      have hjoined : joined (part :: next :: rest) = part ++ ':' :: joined (next :: rest) := by
        simp [joined, List.intercalate_cons_cons]
      rw [hjoined, List.count_append, List.count_cons_self, List.length_cons]
      omega

theorem double_isInfix (front back : List Char) : [':', ':'] <:+: front ++ ':' :: ':' :: back :=
  ⟨front, back, by simp⟩

/-- Every text of an address has two colons in a row, or six colons. -/
theorem IsAddress.colons {address : List Char} (h : IsAddress address) :
    [':', ':'] <:+: address ∨ 6 ≤ address.count ':' := by
  cases h with
  | full groups _ hlength =>
    have hcount := length_le_count_joined groups
    exact .inr (by omega)
  | compressed front back => exact .inl (double_isInfix _ _)
  | mixed groups quad _ _ hlength =>
    have hcount := length_le_count_joined (groups ++ [quad])
    rw [List.length_append, List.length_singleton] at hcount
    exact .inr (by omega)
  | compressedMixed front back quad => exact .inl (double_isInfix _ _)

theorem hasDoubleColon_iff {text : List Char} :
    hasDoubleColon text = true ↔ [':', ':'] <:+: text := by
  induction text with
  | nil => simp [hasDoubleColon]
  | cons a rest ih =>
    rw [List.infix_cons_iff]
    cases rest with
    | nil => simp [hasDoubleColon]
    | cons b rest =>
      simp only [hasDoubleColon, Bool.or_eq_true, Bool.and_eq_true, beq_iff_eq, ih,
        List.cons_prefix_cons, List.nil_prefix, and_true, @eq_comm _ ':' a, @eq_comm _ ':' b]

/-- What contains the text of an address has too many colons itself. -/
theorem IsAddress.colons_of_isInfix {address text : List Char} (h : IsAddress address)
    (hwithin : address <:+: text) : hasDoubleColon text = true ∨ 6 ≤ text.count ':' := by
  rcases h.colons with hdouble | hcount
  · exact .inl (hasDoubleColon_iff.mpr (hdouble.trans hwithin))
  · exact .inr (Nat.le_trans hcount (hwithin.sublist.count_le ':'))

theorem count_double_le {text : List Char} (h : hasDoubleColon text = true) :
    2 ≤ text.count ':' :=
  (hasDoubleColon_iff.mp h).sublist.count_le ':'

theorem isIpv6Line_iff {line : List Char} :
    isIpv6Line line = true ↔
      candidateMark <+: line ∧ ([':', ':'] <:+: line ∨ lineColons < line.count ':') := by
  simp [isIpv6Line, hasDoubleColon_iff]

/-! ## Descriptions -/

variable {candidate : List Char}

theorem mark_isPrefix (h : "candidate:".toList <+: candidate) :
    candidateMark <+: 'a' :: '=' :: candidate := by
  have hmark : candidateMark = 'a' :: '=' :: "candidate:".toList := rfl
  rw [hmark, List.cons_prefix_cons, List.cons_prefix_cons]
  exact ⟨rfl, rfl, h⟩

/-- The colons of a candidate are those of its line. -/
theorem hasDoubleColon_line (candidate : List Char) :
    hasDoubleColon ('a' :: '=' :: candidate) = hasDoubleColon candidate := by
  cases candidate <;> simp [hasDoubleColon]

theorem count_line (candidate : List Char) :
    ('a' :: '=' :: candidate).count ':' = candidate.count ':' := by
  simp

/-- A candidate with an IPv6 address is recognised on its line and by itself. -/
theorem of_hasAddress {address : List Char} (hcandidate : "candidate:".toList <+: candidate)
    (haddress : IsAddress address) (hwithin : address <:+: 'a' :: '=' :: candidate) :
    isIpv6Line ('a' :: '=' :: candidate) = true ∧ isIpv6Candidate candidate = true := by
  have hcolons := haddress.colons_of_isInfix hwithin
  have hmark : candidateMark.isPrefixOf ('a' :: '=' :: candidate) = true :=
    List.isPrefixOf_iff_prefix.mpr (mark_isPrefix hcandidate)
  unfold isIpv6Line isIpv6Candidate
  rw [hmark, Bool.true_and]
  rw [hasDoubleColon_line, count_line] at hcolons ⊢
  rcases hcolons with hdouble | hcount
  · simp [hdouble]
  · have hline : lineColons < candidate.count ':' := hcount
    have halone : candidateColons < candidate.count ':' := by unfold candidateColons; omega
    simp [hline, halone]

/-- A candidate with no colon but the one behind its name is never taken for one with an IPv6
address. -/
theorem of_count_eq_one (h : candidate.count ':' = 1) :
    isIpv6Line ('a' :: '=' :: candidate) = false ∧ isIpv6Candidate candidate = false := by
  have hsingle : hasDoubleColon candidate = false := by
    apply eq_false_of_ne_true
    intro hdouble
    have hcount := count_double_le hdouble
    omega
  unfold isIpv6Line isIpv6Candidate
  rw [hasDoubleColon_line, count_line, h, hsingle]
  exact ⟨Bool.and_false _, rfl⟩

/-- What is advertised of a description.  It consists of certain lines and of no others; those are
kept, in their order and with one carriage return less at the end, that are no candidate with too
many colons, and every line ends in carriage return and line feed.  A candidate that contains the
text of an IPv6 address is not among them, and neither does it pass by itself; one with no further
colon is kept and passes. -/
theorem advertised_lines (sdp : String) :
    ∃ lines, (∀ others, Text.Consists sdp.toList others ↔ others = lines) ∧
      let all := lines.map Text.dropReturn
      let kept := all.filter fun line ↦
        ¬("a=candidate:".toList <+: line ∧ ([':', ':'] <:+: line ∨ 5 < line.count ':'))
      (withoutIpv6 sdp).toList = kept.flatMap (· ++ ['\r', '\n']) ∧
      (∀ candidate address, "candidate:".toList <+: candidate → IsAddress address →
        address <:+: 'a' :: '=' :: candidate →
        'a' :: '=' :: candidate ∉ kept ∧ isIpv6Candidate candidate = true) ∧
      ∀ candidate, "candidate:".toList <+: candidate → candidate.count ':' = 1 →
        ('a' :: '=' :: candidate ∈ all → 'a' :: '=' :: candidate ∈ kept) ∧
        isIpv6Candidate candidate = false := by
  refine ⟨Text.lines sdp.toList, fun _ ↦ Text.consists_iff, ?_⟩
  intro all kept
  have hkept : kept = keptLines sdp.toList := by
    unfold kept keptLines
    apply List.filter_congr
    intro line _
    rw [← Bool.decide_coe (!isIpv6Line line)]
    congr 1
    rw [Bool.not_eq_true', ← Bool.not_eq_true, isIpv6Line_iff]
    rfl
  refine ⟨?_, ?_, ?_⟩
  · rw [hkept, withoutIpv6, String.toList_ofList]
  · intro candidate address hcandidate haddress hwithin
    obtain ⟨hline, halone⟩ := of_hasAddress hcandidate haddress hwithin
    refine ⟨?_, halone⟩
    rw [hkept, keptLines, List.mem_filter, hline]
    simp
  · intro candidate _ hcount
    obtain ⟨hline, halone⟩ := of_count_eq_one hcount
    refine ⟨?_, halone⟩
    intro hmem
    rw [hkept, keptLines, List.mem_filter, hline]
    exact ⟨hmem, rfl⟩

/-- The text of an IPv4 address in the form of an IPv6 address, as it stands in a candidate. -/
theorem isAddress_mapped : IsAddress "::FFFF:129.144.52.38".toList := by
  have hquad : IsQuad "129.144.52.38".toList := by
    refine ⟨[Nat.toDigits 10 129, Nat.toDigits 10 144, Nat.toDigits 10 52, Nat.toDigits 10 38],
      rfl, ?_, by decide⟩
    intro octet hoctet
    simp only [List.mem_cons, List.not_mem_nil, or_false] at hoctet
    rcases hoctet with rfl | rfl | rfl | rfl
    · exact ⟨129, by decide, rfl⟩
    · exact ⟨144, by decide, rfl⟩
    · exact ⟨52, by decide, rfl⟩
    · exact ⟨38, by decide, rfl⟩
  have hgroup : IsGroup "FFFF".toList :=
    ⟨by decide, by decide, List.all_iff_forall_prop.mp (by decide)⟩
  exact .compressedMixed [] ["FFFF".toList] _ (by simp) (by simpa using hgroup) hquad (by decide)

/-- A line feed alone ends a line, two carriage returns in front of it go, and so does the line of a
mapped address. -/
theorem advertised_lines_mapped_address :
    let sdp := "v=0\na=candidate:1 1 udp 1 10.0.0.2 5000 typ host\r\r\n" ++
      "a=candidate:2 1 udp 1 ::FFFF:129.144.52.38 5001 typ host\r\na=mid:0"
    let mapped := "candidate:2 1 udp 1 ::FFFF:129.144.52.38 5001 typ host".toList
    let plain := "candidate:1 1 udp 1 10.0.0.2 5000 typ host".toList
    withoutIpv6 sdp =
        "v=0\r\na=candidate:1 1 udp 1 10.0.0.2 5000 typ host\r\na=mid:0\r\n" ∧
      isIpv6Candidate mapped = true ∧ isIpv6Candidate plain = false := by
  intro sdp mapped plain
  obtain ⟨lines, -, -, hmapped, hplain⟩ := advertised_lines sdp
  have hwithin : "::FFFF:129.144.52.38".toList <:+: 'a' :: '=' :: mapped :=
    ⟨"a=candidate:2 1 udp 1 ".toList, " 5001 typ host".toList, rfl⟩
  have hmark : "candidate:".toList <+: mapped :=
    ⟨"2 1 udp 1 ::FFFF:129.144.52.38 5001 typ host".toList, rfl⟩
  have hplainMark : "candidate:".toList <+: plain :=
    ⟨"1 1 udp 1 10.0.0.2 5000 typ host".toList, rfl⟩
  refine ⟨by decide +kernel, ?_, ?_⟩
  · exact (hmapped mapped _ hmark isAddress_mapped hwithin).2
  · exact (hplain plain hplainMark (by decide +kernel)).2

end LiveCamera.Sdp
