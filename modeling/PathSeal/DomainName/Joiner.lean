import PathSeal.Text.Composition

/-!
# PathSeal.DomainName.Joiner

Where the two joiners may stand in host names (RFC 5892, appendix A). Both may
follow a virama. The one that keeps letters apart may also stand where the
letters around it would be joined without it.
-/

namespace PathSeal.DomainName

open Text (Table)

/-- The characters that are joined to others in writing, marked with the side: `L` or `R` or, for
both, `D`; `T` marks those that are looked through. -/
def joiningTypes : Table :=
  Table.ofLines [
    "300-33fT 342T 346-34eT 350-36fT 483-489T 591-5bdT 5bfT 5c1-5c2T 5c4-5c5T 5c7T 610-61aT 620D",
    "622-625R 626D 627R 628D 629R 62a-62eD 62f-632R 633-63fD 641-647D 648R 649-64aD 64b-65fT",
    "66e-66fD 670T 671-673R 679-687D 688-699R 69a-6bfD 6c0R 6c1-6c2D 6c3-6cbR 6ccD 6cdR 6ceD 6cfR",
    "6d0-6d1D 6d2-6d3R 6d5R 6d6-6dcT 6df-6e4T 6e7-6e8T 6ea-6edT 6ee-6efR 6fa-6fcD 6ffD 710R 711T",
    "712-714D 715-719R 71a-71dD 71eR 71f-727D 728R 729D 72aR 72bD 72cR 72d-72eD 72fR 730-74aT",
    "74dR 74e-758D 759-75bR 75c-76aD 76b-76cR 76d-770D 771R 772D 773-774R 775-777D 778-779R",
    "77a-77fD 7a6-7b0T 7ca-7eaD 7eb-7f3T 7fdT 816-819T 81b-823T 825-827T 829-82dT 840R 841-845D",
    "846-847R 848D 849R 84a-853D 854R 855D 856-858R 859-85bT 860D 862-865D 867R 868D 869-86aR",
    "870-882R 886D 889-88dD 88eR 88fD 897-89fT 8a0-8a9D 8aa-8acR 8aeR 8af-8b0D 8b1-8b2R 8b3-8b8D",
    "8b9R 8ba-8c8D 8ca-8e1T 8e3-902T 93aT 93cT 941-948T 94dT 951-957T 962-963T 981T 9bcT 9c1-9c4T",
    "9cdT 9e2-9e3T 9feT a01-a02T a3cT a41-a42T a47-a48T a4b-a4dT a51T a70-a71T a75T a81-a82T abcT",
    "ac1-ac5T ac7-ac8T acdT ae2-ae3T afa-affT b01T b3cT b3fT b41-b44T b4dT b55-b56T b62-b63T b82T",
    "bc0T bcdT c00T c04T c3cT c3e-c40T c46-c48T c4a-c4dT c55-c56T c62-c63T c81T cbcT cbfT cc6T",
    "ccc-ccdT ce2-ce3T d00-d01T d3b-d3cT d41-d44T d4dT d62-d63T d81T dcaT dd2-dd4T dd6T e31T",
    "e34-e3aT e47-e4eT eb1T eb4-ebcT ec8-eceT f18-f19T f35T f37T f39T f71-f72T f74T f7a-f7eT f80T",
    "f82-f84T f86-f87T f8d-f92T f94-f97T f99-f9cT f9e-fa1T fa3-fa6T fa8-fabT fad-fb8T fba-fbcT",
    "fc6T 102d-1030T 1032-1037T 1039-103aT 103d-103eT 1058-1059T 105e-1060T 1071-1074T 1082T",
    "1085-1086T 108dT 109dT 135d-135fT 1712-1714T 1732-1733T 1752-1753T 1772-1773T 17b7-17bdT",
    "17c6T 17c9-17d3T 17ddT 1807D 1820-1878D 1885-1886T 1887-18a8D 18a9T 18aaD 1920-1922T",
    "1927-1928T 1932T 1939-193bT 1a17-1a18T 1a1bT 1a56T 1a58-1a5eT 1a60T 1a62T 1a65-1a6cT",
    "1a73-1a7cT 1a7fT 1ab0-1addT 1ae0-1aebT 1b00-1b03T 1b34T 1b36-1b3aT 1b3cT 1b42T 1b6b-1b73T",
    "1b80-1b81T 1ba2-1ba5T 1ba8-1ba9T 1bab-1badT 1be6T 1be8-1be9T 1bedT 1bef-1bf1T 1c2c-1c33T",
    "1c36-1c37T 1cd0-1cd2T 1cd4-1ce0T 1ce2-1ce8T 1cedT 1cf4T 1cf8-1cf9T 1dc0-1dffT 20d0-20f0T",
    "2cef-2cf1T 2d7fT 2de0-2dffT 302a-302dT 3099-309aT a66f-a672T a674-a67dT a69e-a69fT",
    "a6f0-a6f1T a802T a806T a80bT a825-a826T a82cT a840-a871D a872L a8c4-a8c5T a8e0-a8f1T a8ffT",
    "a926-a92dT a947-a951T a980-a982T a9b3T a9b6-a9b9T a9bc-a9bdT a9e5T aa29-aa2eT aa31-aa32T",
    "aa35-aa36T aa43T aa4cT aa7cT aab0T aab2-aab4T aab7-aab8T aabe-aabfT aac1T aaec-aaedT aaf6T",
    "abe5T abe8T abedT fb1eT fe20-fe2fT 101fdT 102e0T 10376-1037aT 10a01-10a03T 10a05-10a06T",
    "10a0c-10a0fT 10a38-10a3aT 10a3fT 10ac0-10ac4D 10ac5R 10ac7R 10ac9-10acaR 10acdL 10ace-10ad2R",
    "10ad3-10ad6D 10ad7L 10ad8-10adcD 10addR 10ade-10ae0D 10ae1R 10ae4R 10ae5-10ae6T 10aeb-10aeeD",
    "10aefR 10b80D 10b81R 10b82D 10b83-10b85R 10b86-10b88D 10b89R 10b8a-10b8bD 10b8cR 10b8dD",
    "10b8e-10b8fR 10b90D 10b91R 10ba9-10bacR 10bad-10baeD 10d00L 10d01-10d21D 10d22R 10d23D",
    "10d24-10d27T 10d69-10d6dT 10eab-10eacT 10ec2R 10ec3-10ec4D 10ec6-10ec7D 10efa-10effT",
    "10f30-10f32D 10f33R 10f34-10f44D 10f46-10f50T 10f51-10f53D 10f54R 10f70-10f73D 10f74-10f75R",
    "10f76-10f81D 10f82-10f85T 10fb0D 10fb2-10fb3D 10fb4-10fb6R 10fb8D 10fb9-10fbaR 10fbb-10fbcD",
    "10fbdR 10fbe-10fbfD 10fc1D 10fc2-10fc3R 10fc4D 10fc9R 10fcaD 10fcbL 11001T 11038-11046T",
    "11070T 11073-11074T 1107f-11081T 110b3-110b6T 110b9-110baT 110c2T 11100-11102T 11127-1112bT",
    "1112d-11134T 11173T 11180-11181T 111b6-111beT 111c9-111ccT 111cfT 1122f-11231T 11234T",
    "11236-11237T 1123eT 11241T 112dfT 112e3-112eaT 11300-11301T 1133b-1133cT 11340T 11366-1136cT",
    "11370-11374T 113bb-113c0T 113ceT 113d0T 113d2T 113e1-113e2T 11438-1143fT 11442-11444T 11446T",
    "1145eT 114b3-114b8T 114baT 114bf-114c0T 114c2-114c3T 115b2-115b5T 115bc-115bdT 115bf-115c0T",
    "115dc-115ddT 11633-1163aT 1163dT 1163f-11640T 116abT 116adT 116b0-116b5T 116b7T 1171dT",
    "1171fT 11722-11725T 11727-1172bT 1182f-11837T 11839-1183aT 1193b-1193cT 1193eT 11943T",
    "119d4-119d7T 119da-119dbT 119e0T 11a01-11a0aT 11a33-11a38T 11a3b-11a3eT 11a47T 11a51-11a56T",
    "11a59-11a5bT 11a8a-11a96T 11a98-11a99T 11b60T 11b62-11b64T 11b66T 11c30-11c36T 11c38-11c3dT",
    "11c3fT 11c92-11ca7T 11caa-11cb0T 11cb2-11cb3T 11cb5-11cb6T 11d31-11d36T 11d3aT 11d3c-11d3dT",
    "11d3f-11d45T 11d47T 11d90-11d91T 11d95T 11d97T 11ef3-11ef4T 11f00-11f01T 11f36-11f3aT 11f40T",
    "11f42T 11f5aT 13440T 13447-13455T 1611e-16129T 1612d-1612fT 16af0-16af4T 16b30-16b36T 16f4fT",
    "16f8f-16f92T 16fe4T 1bc9d-1bc9eT 1cf00-1cf2dT 1cf30-1cf46T 1d167-1d169T 1d17b-1d182T",
    "1d185-1d18bT 1d1aa-1d1adT 1d242-1d244T 1da00-1da36T 1da3b-1da6cT 1da75T 1da84T 1da9b-1da9fT",
    "1daa1-1daafT 1e000-1e006T 1e008-1e018T 1e01b-1e021T 1e023-1e024T 1e026-1e02aT 1e08fT",
    "1e130-1e136T 1e2aeT 1e2ec-1e2efT 1e4ec-1e4efT 1e5ee-1e5efT 1e6e3T 1e6e6T 1e6ee-1e6efT 1e6f5T",
    "1e8d0-1e8d6T 1e922-1e943D 1e944-1e94bT"
  ]

/-- The mark of a character in the table. -/
def joiningType (c : Char) : Option Char :=
  (joiningTypes.row? c).bind (·.mark)

/-- The combining class of a virama. -/
def viramaClass : Nat := 9

/-- Whether the first character that is not looked through has one of some joining types. -/
def meets (types : List Char) (cs : List Char) : Bool :=
  match cs.dropWhile (joiningType · == some 'T') with
  | c :: _ => types.any (joiningType c == some ·)
  | [] => false

/-- Whether every joiner stands where it may, given the characters before in reverse. -/
def joinersStand (before : List Char) : List Char → Bool
  | [] => true
  | c :: cs =>
    let afterVirama := match before with
      | b :: _ => Text.combiningClass b == viramaClass
      | [] => false
    let stands :=
      if c = '\u200d' then afterVirama
      else if c = '\u200c' then afterVirama || (meets ['L', 'D'] before && meets ['R', 'D'] cs)
      else true
    stands && joinersStand (c :: before) cs

end PathSeal.DomainName
