import JsonQuery.Unicode.Break

/-!
# Parts of clusters

Clusters are cut by version 17.0 of the standard, one version later than the properties that patterns
know.

* `Unicode.Cluster.extend`, `Unicode.Cluster.spacingMark`, `Unicode.Cluster.prepend` — the classes
  that differ between the two versions.
* `Unicode.Cluster.pictograph` — the characters that a joiner ties together.
* `Unicode.Cluster.consonant`, `Unicode.Cluster.linker` — the parts of conjuncts.
-/

namespace JsonQuery.Unicode.Cluster

/-- Characters that extend the cluster before them. -/
def extend : CharSet := GraphemeBreak.extend ∪ .ofTable
  "1ACF-1ADD 1AE0-1AEB 10EFA-10EFB 11B60 11B62-11B64 11B66 1E6E3 1E6E6 1E6EE-1E6EF 1E6F5"

/-- Marks that take room and extend the cluster before them. -/
def spacingMark : CharSet := GraphemeBreak.spacingMark ∪ .ofTable "11B61 11B65 11B67"

/-- Characters that belong to the cluster behind them. -/
def prepend : CharSet := GraphemeBreak.prepend \ .ofTable "11A3A"

/-- Pictures, which a joiner ties together. -/
def pictograph : CharSet := .ofTable
  "A9 AE 203C 2049 2122 2139 2194-2199 21A9-21AA 231A-231B 2328 23CF 23E9-23F3 23F8-23FA 24C2
   25AA-25AB 25B6 25C0 25FB-25FE 2600-2604 260E 2611 2614-2615 2618 261D 2620 2622-2623 2626 262A
   262E-262F 2638-263A 2640 2642 2648-2653 265F-2660 2663 2665-2666 2668 267B 267E-267F 2692-2697
   2699 269B-269C 26A0-26A1 26A7 26AA-26AB 26B0-26B1 26BD-26BE 26C4-26C5 26C8 26CE-26CF 26D1
   26D3-26D4 26E9-26EA 26F0-26F5 26F7-26FA 26FD 2702 2705 2708-270D 270F 2712-2716/2 271D 2721
   2728 2733-2734 2744 2747 274C 274E 2753-2755 2757 2763-2764 2795-2797 27A1 27B0 27BF 2934-2935
   2B05-2B07 2B1B-2B1C 2B50 2B55 3030 303D 3297 3299 1F004 1F02C-1F02F 1F094-1F09F 1F0AF-1F0B0
   1F0C0 1F0CF-1F0D0 1F0F6-1F0FF 1F170-1F171 1F17E-1F17F 1F18E 1F191-1F19A 1F1AE-1F1E5 1F201-1F20F
   1F21A 1F22F 1F232-1F23A 1F23C-1F23F 1F249-1F25F 1F266-1F321 1F324-1F393 1F396-1F397 1F399-1F39B
   1F39E-1F3F0 1F3F3-1F3F5 1F3F7-1F3FA 1F400-1F4FD 1F4FF-1F53D 1F549-1F54E 1F550-1F567 1F56F-1F570
   1F573-1F57A 1F587 1F58A-1F58D 1F590 1F595-1F596 1F5A4-1F5A5 1F5A8 1F5B1-1F5B2 1F5BC 1F5C2-1F5C4
   1F5D1-1F5D3 1F5DC-1F5DE 1F5E1 1F5E3 1F5E8 1F5EF 1F5F3 1F5FA-1F64F 1F680-1F6C5 1F6CB-1F6D2
   1F6D5-1F6E5 1F6E9 1F6EB-1F6F0 1F6F3-1F6FF 1F7DA-1F7FF 1F80C-1F80F 1F848-1F84F 1F85A-1F85F
   1F888-1F88F 1F8AE-1F8AF 1F8BC-1F8BF 1F8C2-1F8CF 1F8D9-1F8FF 1F90C-1F93A 1F93C-1F945 1F947-1F9FF
   1FA58-1FA5F 1FA6E-1FAFF 1FC00-1FFFD"

/-- Signs that link two consonants into a conjunct. -/
def linker : CharSet := .ofTable
  "94D 9CD ACD B4D C4D D4D 1039 17D2 1A60 1B44 1BAB A9C0 AAF6 10A3F 11133 113D0 1193E 11A47 11A99
   11F42"

/-- Consonants that a linker ties together. -/
def consonant : CharSet := .ofTable
  "915-939 958-95F 978-97F 995-9A8 9AA-9B0 9B2 9B6-9B9 9DC-9DD 9DF 9F0-9F1 A95-AA8 AAA-AB0 AB2-AB3
   AB5-AB9 AF9 B15-B28 B2A-B30 B32-B33 B35-B39 B5C-B5D B5F B71 C15-C28 C2A-C39 C58-C5A D15-D3A
   1000-102A 103F 1050-1055 105A-105D 1061 1065-1066 106E-1070 1075-1081 108E 1780-17B3 1A20-1A54
   1B0B-1B0C 1B13-1B33 1B45-1B4C 1B83-1BA0 1BAE-1BAF 1BBB-1BBD A989-A98B A98F-A9B2 A9E0-A9E4
   A9E7-A9EF A9FA-A9FE AA60-AA6F AA71-AA73 AA7A AA7E-AA7F AAE0-AAEA ABC0-ABDA 10A00 10A10-10A13
   10A15-10A17 10A19-10A35 11103-11126 11144 11147 11380-11389 1138B 1138E 11390-113B5 11900-11906
   11909 1190C-11913 11915-11916 11918-1192F 11A00 11A0B-11A32 11A50 11A5C-11A83 11F04-11F10
   11F12-11F33"

end JsonQuery.Unicode.Cluster
