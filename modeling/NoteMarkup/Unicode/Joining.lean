import NoteMarkup.Unicode.RangeTable

/-!
# Joining letters

How the letters of cursive scripts join their neighbours.
-/

namespace NoteMarkup.Unicode

/-- How a letter joins its neighbours. -/
inductive Joining where
  /-- Not at all. -/
  | none
  /-- The letter in front of it. -/
  | right
  /-- The letter behind it. -/
  | left
  /-- Both. -/
  | dual
  /-- The letters around it join as if it were not there. -/
  | transparent
  deriving Repr, DecidableEq, Inhabited

def Joining.ofCode : String → Joining
  | "R" => right
  | "L" => left
  | "D" => dual
  | "T" => transparent
  | _ => none

/-- The property Joining_Type, as far as it is R, L, D or T. -/
def joinings : RangeTable Joining :=
  .ofString Joining.ofCode
    "ad=T 300-36f=T 483-489=T 591-5bd=T 5bf=T 5c1-5c2=T 5c4-5c5=T 5c7=T 610-61a=T 61c=T 620=D
    622-625=R 626=D 627=R 628=D 629=R 62a-62e=D 62f-632=R 633-63f=D 641-647=D 648=R 649-64a=D
    64b-65f=T 66e-66f=D 670=T 671-673=R 675-677=R 678-687=D 688-699=R 69a-6bf=D 6c0=R 6c1-6c2=D
    6c3-6cb=R 6cc=D 6cd=R 6ce=D 6cf=R 6d0-6d1=D 6d2-6d3=R 6d5=R 6d6-6dc=T 6df-6e4=T 6e7-6e8=T
    6ea-6ed=T 6ee-6ef=R 6fa-6fc=D 6ff=D 70f=T 710=R 711=T 712-714=D 715-719=R 71a-71d=D 71e=R
    71f-727=D 728=R 729=D 72a=R 72b=D 72c=R 72d-72e=D 72f=R 730-74a=T 74d=R 74e-758=D 759-75b=R
    75c-76a=D 76b-76c=R 76d-770=D 771=R 772=D 773-774=R 775-777=D 778-779=R 77a-77f=D 7a6-7b0=T
    7ca-7ea=D 7eb-7f3=T 7fd=T 816-819=T 81b-823=T 825-827=T 829-82d=T 840=R 841-845=D 846-847=R
    848=D 849=R 84a-853=D 854=R 855=D 856-858=R 859-85b=T 860=D 862-865=D 867=R 868=D 869-86a=R
    870-882=R 886=D 889-88d=D 88e=R 88f=D 897-89f=T 8a0-8a9=D 8aa-8ac=R 8ae=R 8af-8b0=D
    8b1-8b2=R 8b3-8b8=D 8b9=R 8ba-8c8=D 8ca-8e1=T 8e3-902=T 93a=T 93c=T 941-948=T 94d=T
    951-957=T 962-963=T 981=T 9bc=T 9c1-9c4=T 9cd=T 9e2-9e3=T 9fe=T a01-a02=T a3c=T a41-a42=T
    a47-a48=T a4b-a4d=T a51=T a70-a71=T a75=T a81-a82=T abc=T ac1-ac5=T ac7-ac8=T acd=T
    ae2-ae3=T afa-aff=T b01=T b3c=T b3f=T b41-b44=T b4d=T b55-b56=T b62-b63=T b82=T bc0=T bcd=T
    c00=T c04=T c3c=T c3e-c40=T c46-c48=T c4a-c4d=T c55-c56=T c62-c63=T c81=T cbc=T cbf=T cc6=T
    ccc-ccd=T ce2-ce3=T d00-d01=T d3b-d3c=T d41-d44=T d4d=T d62-d63=T d81=T dca=T dd2-dd4=T
    dd6=T e31=T e34-e3a=T e47-e4e=T eb1=T eb4-ebc=T ec8-ece=T f18-f19=T f35=T f37=T f39=T
    f71-f7e=T f80-f84=T f86-f87=T f8d-f97=T f99-fbc=T fc6=T 102d-1030=T 1032-1037=T 1039-103a=T
    103d-103e=T 1058-1059=T 105e-1060=T 1071-1074=T 1082=T 1085-1086=T 108d=T 109d=T
    135d-135f=T 1712-1714=T 1732-1733=T 1752-1753=T 1772-1773=T 17b4-17b5=T 17b7-17bd=T 17c6=T
    17c9-17d3=T 17dd=T 1807=D 180b-180d=T 180f=T 1820-1878=D 1885-1886=T 1887-18a8=D 18a9=T
    18aa=D 1920-1922=T 1927-1928=T 1932=T 1939-193b=T 1a17-1a18=T 1a1b=T 1a56=T 1a58-1a5e=T
    1a60=T 1a62=T 1a65-1a6c=T 1a73-1a7c=T 1a7f=T 1ab0-1add=T 1ae0-1aeb=T 1b00-1b03=T 1b34=T
    1b36-1b3a=T 1b3c=T 1b42=T 1b6b-1b73=T 1b80-1b81=T 1ba2-1ba5=T 1ba8-1ba9=T 1bab-1bad=T
    1be6=T 1be8-1be9=T 1bed=T 1bef-1bf1=T 1c2c-1c33=T 1c36-1c37=T 1cd0-1cd2=T 1cd4-1ce0=T
    1ce2-1ce8=T 1ced=T 1cf4=T 1cf8-1cf9=T 1dc0-1dff=T 200b=T 200e-200f=T 202a-202e=T
    2060-2064=T 206a-206f=T 20d0-20f0=T 2cef-2cf1=T 2d7f=T 2de0-2dff=T 302a-302d=T 3099-309a=T
    a66f-a672=T a674-a67d=T a69e-a69f=T a6f0-a6f1=T a802=T a806=T a80b=T a825-a826=T a82c=T
    a840-a871=D a872=L a8c4-a8c5=T a8e0-a8f1=T a8ff=T a926-a92d=T a947-a951=T a980-a982=T
    a9b3=T a9b6-a9b9=T a9bc-a9bd=T a9e5=T aa29-aa2e=T aa31-aa32=T aa35-aa36=T aa43=T aa4c=T
    aa7c=T aab0=T aab2-aab4=T aab7-aab8=T aabe-aabf=T aac1=T aaec-aaed=T aaf6=T abe5=T abe8=T
    abed=T fb1e=T fe00-fe0f=T fe20-fe2f=T feff=T fff9-fffb=T 101fd=T 102e0=T 10376-1037a=T
    10a01-10a03=T 10a05-10a06=T 10a0c-10a0f=T 10a38-10a3a=T 10a3f=T 10ac0-10ac4=D 10ac5=R
    10ac7=R 10ac9-10aca=R 10acd=L 10ace-10ad2=R 10ad3-10ad6=D 10ad7=L 10ad8-10adc=D 10add=R
    10ade-10ae0=D 10ae1=R 10ae4=R 10ae5-10ae6=T 10aeb-10aee=D 10aef=R 10b80=D 10b81=R 10b82=D
    10b83-10b85=R 10b86-10b88=D 10b89=R 10b8a-10b8b=D 10b8c=R 10b8d=D 10b8e-10b8f=R 10b90=D
    10b91=R 10ba9-10bac=R 10bad-10bae=D 10d00=L 10d01-10d21=D 10d22=R 10d23=D 10d24-10d27=T
    10d69-10d6d=T 10eab-10eac=T 10ec2=R 10ec3-10ec4=D 10ec6-10ec7=D 10efa-10eff=T 10f30-10f32=D
    10f33=R 10f34-10f44=D 10f46-10f50=T 10f51-10f53=D 10f54=R 10f70-10f73=D 10f74-10f75=R
    10f76-10f81=D 10f82-10f85=T 10fb0=D 10fb2-10fb3=D 10fb4-10fb6=R 10fb8=D 10fb9-10fba=R
    10fbb-10fbc=D 10fbd=R 10fbe-10fbf=D 10fc1=D 10fc2-10fc3=R 10fc4=D 10fc9=R 10fca=D 10fcb=L
    11001=T 11038-11046=T 11070=T 11073-11074=T 1107f-11081=T 110b3-110b6=T 110b9-110ba=T
    110c2=T 11100-11102=T 11127-1112b=T 1112d-11134=T 11173=T 11180-11181=T 111b6-111be=T
    111c9-111cc=T 111cf=T 1122f-11231=T 11234=T 11236-11237=T 1123e=T 11241=T 112df=T
    112e3-112ea=T 11300-11301=T 1133b-1133c=T 11340=T 11366-1136c=T 11370-11374=T 113bb-113c0=T
    113ce=T 113d0=T 113d2=T 113e1-113e2=T 11438-1143f=T 11442-11444=T 11446=T 1145e=T
    114b3-114b8=T 114ba=T 114bf-114c0=T 114c2-114c3=T 115b2-115b5=T 115bc-115bd=T 115bf-115c0=T
    115dc-115dd=T 11633-1163a=T 1163d=T 1163f-11640=T 116ab=T 116ad=T 116b0-116b5=T 116b7=T
    1171d=T 1171f=T 11722-11725=T 11727-1172b=T 1182f-11837=T 11839-1183a=T 1193b-1193c=T
    1193e=T 11943=T 119d4-119d7=T 119da-119db=T 119e0=T 11a01-11a0a=T 11a33-11a38=T
    11a3b-11a3e=T 11a47=T 11a51-11a56=T 11a59-11a5b=T 11a8a-11a96=T 11a98-11a99=T 11b60=T
    11b62-11b64=T 11b66=T 11c30-11c36=T 11c38-11c3d=T 11c3f=T 11c92-11ca7=T 11caa-11cb0=T
    11cb2-11cb3=T 11cb5-11cb6=T 11d31-11d36=T 11d3a=T 11d3c-11d3d=T 11d3f-11d45=T 11d47=T
    11d90-11d91=T 11d95=T 11d97=T 11ef3-11ef4=T 11f00-11f01=T 11f36-11f3a=T 11f40=T 11f42=T
    11f5a=T 13430-13440=T 13447-13455=T 1611e-16129=T 1612d-1612f=T 16af0-16af4=T 16b30-16b36=T
    16f4f=T 16f8f-16f92=T 16fe4=T 1bc9d-1bc9e=T 1bca0-1bca3=T 1cf00-1cf2d=T 1cf30-1cf46=T
    1d167-1d169=T 1d173-1d182=T 1d185-1d18b=T 1d1aa-1d1ad=T 1d242-1d244=T 1da00-1da36=T
    1da3b-1da6c=T 1da75=T 1da84=T 1da9b-1da9f=T 1daa1-1daaf=T 1e000-1e006=T 1e008-1e018=T
    1e01b-1e021=T 1e023-1e024=T 1e026-1e02a=T 1e08f=T 1e130-1e136=T 1e2ae=T 1e2ec-1e2ef=T
    1e4ec-1e4ef=T 1e5ee-1e5ef=T 1e6e3=T 1e6e6=T 1e6ee-1e6ef=T 1e6f5=T 1e8d0-1e8d6=T
    1e900-1e943=D 1e944-1e94b=T e0001=T e0020-e007f=T e0100-e01ef=T"

def joining (c : Char) : Joining :=
  (joinings.find? c).getD .none

end NoteMarkup.Unicode
