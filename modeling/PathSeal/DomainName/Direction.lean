import PathSeal.Text.Table

/-!
# PathSeal.DomainName.Direction

The direction of writing in host names (RFC 5893). As soon as one label has a
character that is written from right to left, every label must have one
direction: it begins with a letter of that direction, ends in a letter or a
number, and nothing in it runs the other way.
-/

namespace PathSeal.DomainName

open Text (Table)

/-- The bidirectional classes that occur in host names. -/
inductive Direction where
  | leftToRight
  | rightToLeft
  | arabicLetter
  | arabicNumber
  | europeanNumber
  | europeanSeparator
  | europeanTerminator
  | commonSeparator
  | boundary
  | mark
  | neutral
deriving DecidableEq

/-- The characters that are not written from left to right, marked with their classes: `R` and `A`
letters, `N` and `E` numbers, `S`, `T` and `C` what stands in numbers, `B` boundaries, `M` marks and
`O` all else. -/
def directions : Table :=
  Table.ofLines [
    "0-8B 9-dO e-1bB 1c-22O 23-25T 26-2aO 2bS 2cC 2dS 2e-2fC 30-39E 3aC 3b-40O 5b-60O 7b-7eO 7fB",
    "a1O a2-a5T a6-a7O a9O ab-acO aeO b0-b1T b6-b7O bbO bfO d7O f7O 2b9-2baO 2c2-2cfO 2d2-2d7O",
    "2de-2dfO 2e5-2edO 2ef-2ffO 300-33fM 342M 346-34eM 350-36fM 375O 3f6O 483-489M 58aO 58d-58eO",
    "58fT 591-5bdM 5beR 5bfM 5c0R 5c1-5c2M 5c3R 5c4-5c5M 5c6R 5c7M 5d0-5eaR 5ef-5f4R 606-607O",
    "608A 609-60aT 60bA 60cC 60dA 60e-60fO 610-61aM 61bA 61d-64aA 64b-65fM 660-669N 66aT 66b-66cN",
    "66d-66fA 670M 671-674A 679-6d5A 6d6-6dcM 6deO 6df-6e4M 6e5-6e6A 6e7-6e8M 6e9O 6ea-6edM",
    "6ee-6efA 6f0-6f9E 6fa-70dA 710A 711M 712-72fA 730-74aM 74d-7a5A 7a6-7b0M 7b1A 7c0-7eaR",
    "7eb-7f3M 7f4-7f5R 7f6-7f9O 7faR 7fdM 7fe-815R 816-819M 81aR 81b-823M 824R 825-827M 828R",
    "829-82dM 830-83eR 840-858R 859-85bM 85eR 860-86aA 870-88fA 897-89fM 8a0-8c9A 8ca-8e1M",
    "8e3-902M 93aM 93cM 941-948M 94dM 951-957M 962-963M 981M 9bcM 9c1-9c4M 9cdM 9e2-9e3M 9f2-9f3T",
    "9fbT 9feM a01-a02M a3cM a41-a42M a47-a48M a4b-a4dM a51M a70-a71M a75M a81-a82M abcM ac1-ac5M",
    "ac7-ac8M acdM ae2-ae3M af1T afa-affM b01M b3cM b3fM b41-b44M b4dM b55-b56M b62-b63M b82M",
    "bc0M bcdM bf3-bf8O bf9T bfaO c00M c04M c3cM c3e-c40M c46-c48M c4a-c4dM c55-c56M c62-c63M",
    "c78-c7eO c81M cbcM ccc-ccdM ce2-ce3M d00-d01M d3b-d3cM d41-d44M d4dM d62-d63M d81M dcaM",
    "dd2-dd4M dd6M e31M e34-e3aM e3fT e47-e4eM eb1M eb4-ebcM ec8-eceM f18-f19M f35M f37M f39M",
    "f3a-f3dO f71-f72M f74M f7a-f7eM f80M f82-f84M f86-f87M f8d-f92M f94-f97M f99-f9cM f9e-fa1M",
    "fa3-fa6M fa8-fabM fad-fb8M fba-fbcM fc6M 102d-1030M 1032-1037M 1039-103aM 103d-103eM",
    "1058-1059M 105e-1060M 1071-1074M 1082M 1085-1086M 108dM 109dM 135d-135fM 1390-1399O 1400O",
    "169b-169cO 1712-1714M 1732-1733M 1752-1753M 1772-1773M 17b7-17bdM 17c6M 17c9-17d3M 17dbT",
    "17ddM 17f0-17f9O 1800-180aO 1885-1886M 18a9M 1920-1922M 1927-1928M 1932M 1939-193bM 1940O",
    "1944-1945O 19de-19ffO 1a17-1a18M 1a1bM 1a56M 1a58-1a5eM 1a60M 1a62M 1a65-1a6cM 1a73-1a7cM",
    "1a7fM 1ab0-1addM 1ae0-1aebM 1b00-1b03M 1b34M 1b36-1b3aM 1b3cM 1b42M 1b4e-1b4fO 1b6b-1b73M",
    "1b7fO 1b80-1b81M 1ba2-1ba5M 1ba8-1ba9M 1bab-1badM 1be6M 1be8-1be9M 1bedM 1bef-1bf1M",
    "1c2c-1c33M 1c36-1c37M 1cd0-1cd2M 1cd4-1ce0M 1ce2-1ce8M 1cedM 1cf4M 1cf8-1cf9M 1dc0-1dffM",
    "200c-200dB 2010O 2012-2016O 2018-2023O 2027O 2030-2032T 2035O 2038-203bO 203dO 203f-2043O",
    "2044C 2045-2046O 204a-2056O 2058-205eO 20a0-20a7T 20a9-20c1T 20d0-20f0M 2104O 2108O 2114O",
    "2117-2118O 211e-211fO 2123O 2125O 2127O 2129O 212eT 213aO 2141-2144O 214a-214dO 218a-218bO",
    "2190-2211O 2212S 2213T 2214-222bO 222eO 2231-2328O 232b-2335O 237b-2394O 2396-2429O",
    "2440-244aO 24eb-26abO 26ad-27ffO 2900-2a0bO 2a0d-2a73O 2a77-2adbO 2add-2b73O 2b76-2bffO",
    "2ce5-2ceaO 2cef-2cf1M 2cf9-2cffO 2d7fM 2de0-2dffM 2e00-2e5dO 2e80-2e99O 2e9b-2e9eO",
    "2ea0-2ef2O 3001O 3003-3004O 3008-3020O 302a-302dM 3030O 3037O 303d-303fO 3099-309aM 30a0O",
    "30fbO 31c0-31e5O 4dc0-4dffO a490-a4c6O a60d-a60fO a66f-a672M a673O a674-a67dM a67e-a67fO",
    "a69e-a69fM a6f0-a6f1M a700-a721O a788O a802M a806M a80bM a825-a826M a828-a82bO a82cM",
    "a838-a839T a874-a877O a8c4-a8c5M a8e0-a8f1M a8ffM a926-a92dM a947-a951M a980-a982M a9b3M",
    "a9b6-a9b9M a9bc-a9bdM a9e5M aa29-aa2eM aa31-aa32M aa35-aa36M aa43M aa4cM aa7cM aab0M",
    "aab2-aab4M aab7-aab8M aabe-aabfM aac1M aaec-aaedM aaf6M ab6a-ab6bO abe5M abe8M abedM fb1eM",
    "fbb2-fbc2A fbc3-fbd2O fd3e-fd4fO fd90-fd91O fdc8-fdcfO fdfd-fdffO fe20-fe2fM fe45-fe46O",
    "fe73A 10101O 10140-1018cO 10190-1019cO 101a0O 101fdM 102e0M 102e1-102fbE 10376-1037aM",
    "10800-10805R 10808R 1080a-10835R 10837-10838R 1083cR 1083f-10855R 10857-1089eR 108a7-108afR",
    "108e0-108f2R 108f4-108f5R 108fb-1091bR 1091fO 10920-10939R 1093f-10959R 10980-109b7R",
    "109bc-109cfR 109d2-10a00R 10a01-10a03M 10a05-10a06M 10a0c-10a0fM 10a10-10a13R 10a15-10a17R",
    "10a19-10a35R 10a38-10a3aM 10a3fM 10a40-10a48R 10a50-10a58R 10a60-10a9fR 10ac0-10ae4R",
    "10ae5-10ae6M 10aeb-10af6R 10b00-10b35R 10b39-10b3fO 10b40-10b55R 10b58-10b72R 10b78-10b91R",
    "10b99-10b9cR 10ba9-10bafR 10c00-10c48R 10cc0-10cf2R 10cfa-10cffR 10d00-10d23A 10d24-10d27M",
    "10d30-10d39N 10d40-10d4fR 10d69-10d6dM 10d6e-10d85R 10d8e-10d8fR 10e60-10e7eN 10e80-10ea9R",
    "10eab-10eacM 10eadR 10eb0-10eb1R 10ec2-10ec7A 10ed0-10ed8O 10efa-10effM 10f00-10f27R",
    "10f30-10f45A 10f46-10f50M 10f51-10f59A 10f70-10f81R 10f82-10f85M 10f86-10f89R 10fb0-10fcbR",
    "10fe0-10ff6R 11001M 11038-11046M 11052-11065O 11070M 11073-11074M 1107f-11081M 110b3-110b6M",
    "110b9-110baM 110c2M 11100-11102M 11127-1112bM 1112d-11134M 11173M 11180-11181M 111b6-111beM",
    "111c9-111ccM 111cfM 1122f-11231M 11234M 11236-11237M 1123eM 11241M 112dfM 112e3-112eaM",
    "11300-11301M 1133b-1133cM 11340M 11366-1136cM 11370-11374M 113bb-113c0M 113ceM 113d0M 113d2M",
    "113d4-113d5O 113d7-113d8O 113e1-113e2M 11438-1143fM 11442-11444M 11446M 1145eM 114b3-114b8M",
    "114baM 114bf-114c0M 114c2-114c3M 115b2-115b5M 115bc-115bdM 115bf-115c0M 115dc-115ddM",
    "11633-1163aM 1163dM 1163f-11640M 11660-1166cO 116abM 116adM 116b0-116b5M 116b7M 1171d-1171fM",
    "11722-11725M 11727-1172bM 1182f-11837M 11839-1183aM 1193b-1193cM 1193eM 11943M 119d4-119d7M",
    "119da-119dbM 119e0M 11a01-11a06M 11a09-11a0aM 11a33-11a38M 11a3b-11a3eM 11a47M 11a51-11a56M",
    "11a59-11a5bM 11a8a-11a96M 11a98-11a99M 11b60M 11b62-11b64M 11b66M 11be1O 11c30-11c36M",
    "11c38-11c3dM 11c92-11ca7M 11caa-11cb0M 11cb2-11cb3M 11cb5-11cb6M 11d31-11d36M 11d3aM",
    "11d3c-11d3dM 11d3f-11d45M 11d47M 11d90-11d91M 11d95M 11d97M 11ef3-11ef4M 11f00-11f01M",
    "11f36-11f3aM 11f40M 11f42M 11f5aM 11fd5-11fdcO 11fdd-11fe0T 11fe1-11ff1O 13440M 13447-13455M",
    "1611e-16129M 1612d-1612fM 16af0-16af4M 16b30-16b36M 16d6d-16d6fO 16f4fM 16f8f-16f92M 16fe2O",
    "16fe4M 1bc9d-1bc9eM 1cc00-1ccd5O 1ccfa-1ccfcO 1cd00-1ceb3O 1ceba-1ced0O 1cee0-1cef0O",
    "1cf00-1cf2dM 1cf30-1cf46M 1d167-1d169M 1d17b-1d182M 1d185-1d18bM 1d1aa-1d1adM 1d1e9-1d1eaO",
    "1d200-1d241O 1d242-1d244M 1d245O 1d300-1d356O 1da00-1da36M 1da3b-1da6cM 1da75M 1da84M",
    "1da9b-1da9fM 1daa1-1daafM 1e000-1e006M 1e008-1e018M 1e01b-1e021M 1e023-1e024M 1e026-1e02aM",
    "1e08fM 1e130-1e136M 1e2aeM 1e2ec-1e2efM 1e2ffT 1e4ec-1e4efM 1e5ee-1e5efM 1e5ffO 1e6e3M",
    "1e6e6M 1e6ee-1e6efM 1e6f5M 1e800-1e8c4R 1e8c7-1e8cfR 1e8d0-1e8d6M 1e922-1e943R 1e944-1e94aM",
    "1e94bR 1e950-1e959R 1e95e-1e95fR 1ec71-1ecb4A 1ed01-1ed3dA 1eef0-1eef1O 1f000-1f02bO",
    "1f030-1f093O 1f0a0-1f0aeO 1f0b1-1f0bfO 1f0c1-1f0cfO 1f0d1-1f0f5O 1f10b-1f10fO 1f12fO",
    "1f16d-1f16fO 1f1adO 1f260-1f265O 1f300-1f6d8O 1f6dc-1f6ecO 1f6f0-1f6fcO 1f700-1f7d9O",
    "1f7e0-1f7ebO 1f7f0O 1f800-1f80bO 1f810-1f847O 1f850-1f859O 1f860-1f887O 1f890-1f8adO",
    "1f8b0-1f8bbO 1f8c0-1f8c1O 1f8d0-1f8d8O 1f900-1fa57O 1fa60-1fa6dO 1fa70-1fa7cO 1fa80-1fa8aO",
    "1fa8e-1fac6O 1fac8O 1facd-1fadcO 1fadf-1faeaO 1faef-1faf8O 1fb00-1fb92O 1fb94-1fbefO 1fbfaO"
  ]

/-- The class of a character. -/
def direction (c : Char) : Direction :=
  match directions.row? c with
  | none => .leftToRight
  | some row =>
    match row.mark with
    | some 'R' => .rightToLeft
    | some 'A' => .arabicLetter
    | some 'N' => .arabicNumber
    | some 'E' => .europeanNumber
    | some 'S' => .europeanSeparator
    | some 'T' => .europeanTerminator
    | some 'C' => .commonSeparator
    | some 'B' => .boundary
    | some 'M' => .mark
    | _ => .neutral

/-- Whether a class is written from right to left. -/
def Direction.isBackward : Direction → Bool
  | rightToLeft | arabicLetter | arabicNumber => true
  | _ => false

/-- Whether a class may occur in a label of either direction. -/
def Direction.isShared : Direction → Bool
  | europeanNumber | europeanSeparator | europeanTerminator | commonSeparator | boundary | mark
  | neutral => true
  | _ => false

/-- The classes of a label up to the last that is no mark. -/
def withoutMarks (classes : List Direction) : List Direction :=
  (classes.reverse.dropWhile (· == .mark)).reverse

/-- Whether classes make up a label from left to right. -/
def isForward (classes : List Direction) : Bool :=
  classes.all (fun d => d == .leftToRight || d.isShared) &&
  match (withoutMarks classes).getLast? with
  | some d => d == .leftToRight || d == .europeanNumber
  | none => true

/-- Whether classes make up a label from right to left. It has numbers of one kind only. -/
def isBackward (classes : List Direction) : Bool :=
  classes.all (fun d => d.isBackward || d.isShared) &&
  !(classes.contains .europeanNumber && classes.contains .arabicNumber) &&
  match (withoutMarks classes).getLast? with
  | some d => d.isBackward || d == .europeanNumber
  | none => true

/-- Whether a label has one direction. -/
def hasDirection (label : List Char) : Bool :=
  let classes := label.map direction
  match classes with
  | [] => true
  | .leftToRight :: _ => isForward classes
  | .rightToLeft :: _ | .arabicLetter :: _ => isBackward classes
  | _ => false

/-- Whether labels can stand in one name. -/
def haveDirections (labels : List (List Char)) : Bool :=
  !labels.any (·.any fun c => (direction c).isBackward) || labels.all hasDirection

end PathSeal.DomainName
