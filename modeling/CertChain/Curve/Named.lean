import CertChain.Algorithm.Parameters
import CertChain.Curve.Weierstrass

/-!
# Named curves

The curves on which keys may lie, each with the identifier and the name it goes by.
Three of them may also be given by their equation.
-/

namespace CertChain

/-- A curve that has a name. -/
structure NamedCurve where
  name : String
  id : Oid
  curve : Weierstrass
  deriving DecidableEq, Repr

namespace NamedCurve

def p192 : NamedCurve where
  name := "secp192r1"
  id := .ofArcs [1, 2, 840, 10045, 3, 1, 1]
  curve :=
    ⟨(1 <<< 192) - (1 <<< 64) - 1,
      (1 <<< 192) - (1 <<< 64) - 1 - 3,
      0x64210519E59C80E70FA7E9AB72243049FEB8DEECC146B9B1,
      0x188DA80EB03090F67CBF20EB43A18800F4FF0AFD82FF1012,
      0x7192B95FFC8DA78631011ED6B24CDD573F977A11E794811,
      0xFFFFFFFFFFFFFFFFFFFFFFFF99DEF836146BC9B1B4D22831⟩

def p224 : NamedCurve where
  name := "secp224r1"
  id := .ofArcs [1, 3, 132, 0, 33]
  curve :=
    ⟨(1 <<< 224) - (1 <<< 96) + 1,
      (1 <<< 224) - (1 <<< 96) + 1 - 3,
      0xB4050A850C04B3ABF54132565044B0B7D7BFD8BA270B39432355FFB4,
      0xB70E0CBD6BB4BF7F321390B94A03C1D356C21122343280D6115C1D21,
      0xBD376388B5F723FB4C22DFE6CD4375A05A07476444D5819985007E34,
      0xFFFFFFFFFFFFFFFFFFFFFFFFFFFF16A2E0B8F03E13DD29455C5C2A3D⟩

def p256 : NamedCurve where
  name := "secp256r1"
  id := .ofArcs [1, 2, 840, 10045, 3, 1, 7]
  curve :=
    ⟨(1 <<< 256) - (1 <<< 224) + (1 <<< 192) + (1 <<< 96) - 1,
      (1 <<< 256) - (1 <<< 224) + (1 <<< 192) + (1 <<< 96) - 1 - 3,
      0x5AC635D8AA3A93E7B3EBBD55769886BC651D06B0CC53B0F63BCE3C3E27D2604B,
      0x6B17D1F2E12C4247F8BCE6E563A440F277037D812DEB33A0F4A13945D898C296,
      0x4FE342E2FE1A7F9B8EE7EB4A7C0F9E162BCE33576B315ECECBB6406837BF51F5,
      0xFFFFFFFF00000000FFFFFFFFFFFFFFFFBCE6FAADA7179E84F3B9CAC2FC632551⟩

def p384 : NamedCurve where
  name := "secp384r1"
  id := .ofArcs [1, 3, 132, 0, 34]
  curve :=
    ⟨(1 <<< 384) - (1 <<< 128) - (1 <<< 96) + (1 <<< 32) - 1,
      (1 <<< 384) - (1 <<< 128) - (1 <<< 96) + (1 <<< 32) - 1 - 3,
      0xB3312FA7E23EE7E4988E056BE3F82D19181D9C6EFE8141120314088F5013875AC656398D8A2ED19D2A85C8EDD3EC2AEF,
      0xAA87CA22BE8B05378EB1C71EF320AD746E1D3B628BA79B9859F741E082542A385502F25DBF55296C3A545E3872760AB7,
      0x3617DE4A96262C6F5D9E98BF9292DC29F8F41DBD289A147CE9DA3113B5F0B8C00A60B1CE1D7E819D7A431D7C90EA0E5F,
      0xFFFFFFFFFFFFFFFFFFFFFFFFFFFFFFFFFFFFFFFFFFFFFFFFC7634D81F4372DDF581A0DB248B0A77AECEC196ACCC52973⟩

def p521 : NamedCurve where
  name := "secp521r1"
  id := .ofArcs [1, 3, 132, 0, 35]
  curve :=
    ⟨(1 <<< 521) - 1,
      (1 <<< 521) - 1 - 3,
      0x51953EB9618E1C9A1F929A21A0B68540EEA2DA725B99B315F3B8B489918EF109E156193951EC7E937B1652C0BD3BB1BF073573DF883D2C34F1EF451FD46B503F00,
      0xC6858E06B70404E9CD9E3ECB662395B4429C648139053FB521F828AF606B4D3DBAA14B5E77EFE75928FE1DC127A2FFA8DE3348B3C1856A429BF97E7E31C2E5BD66,
      0x11839296A789A3BC0045C8A5FB42C7D1BD998F54449579B446817AFBD17273E662C97EE72995EF42640C550B9013FAD0761353C7086A272C24088BE94769FD16650,
      0x1FFFFFFFFFFFFFFFFFFFFFFFFFFFFFFFFFFFFFFFFFFFFFFFFFFFFFFFFFFFFFFFFFA51868783BF2F966B7FCC0148F709A5D03BB5C9B8899C47AEBB6FB71E91386409⟩

def koblitz256 : NamedCurve where
  name := "secp256k1"
  id := .ofArcs [1, 3, 132, 0, 10]
  curve :=
    ⟨(1 <<< 256) - (1 <<< 32) - 977,
      0,
      0x7,
      0x79BE667EF9DCBBAC55A06295CE870B07029BFCDB2DCE28D959F2815B16F81798,
      0x483ADA7726A3C4655DA4FBFC0E1108A8FD17B448A68554199C47D08FFB10D4B8,
      0xFFFFFFFFFFFFFFFFFFFFFFFFFFFFFFFEBAAEDCE6AF48A03BBFD25E8CD0364141⟩

def brainpool256 : NamedCurve where
  name := "brainpoolP256r1"
  id := .ofArcs [1, 3, 36, 3, 3, 2, 8, 1, 1, 7]
  curve :=
    ⟨0xA9FB57DBA1EEA9BC3E660A909D838D726E3BF623D52620282013481D1F6E5377,
      0x7D5A0975FC2C3057EEF67530417AFFE7FB8055C126DC5C6CE94A4B44F330B5D9,
      0x26DC5C6CE94A4B44F330B5D9BBD77CBF958416295CF7E1CE6BCCDC18FF8C07B6,
      0x8BD2AEB9CB7E57CB2C4B482FFC81B7AFB9DE27E1E3BD23C23A4453BD9ACE3262,
      0x547EF835C3DAC4FD97F8461A14611DC9C27745132DED8E545C1D54C72F046997,
      0xA9FB57DBA1EEA9BC3E660A909D838D718C397AA3B561A6F7901E0E82974856A7⟩

def brainpool384 : NamedCurve where
  name := "brainpoolP384r1"
  id := .ofArcs [1, 3, 36, 3, 3, 2, 8, 1, 1, 11]
  curve :=
    ⟨0x8CB91E82A3386D280F5D6F7E50E641DF152F7109ED5456B412B1DA197FB71123ACD3A729901D1A71874700133107EC53,
      0x7BC382C63D8C150C3C72080ACE05AFA0C2BEA28E4FB22787139165EFBA91F90F8AA5814A503AD4EB04A8C7DD22CE2826,
      0x4A8C7DD22CE28268B39B55416F0447C2FB77DE107DCD2A62E880EA53EEB62D57CB4390295DBC9943AB78696FA504C11,
      0x1D1C64F068CF45FFA2A63A81B7C13F6B8847A3E77EF14FE3DB7FCAFE0CBD10E8E826E03436D646AAEF87B2E247D4AF1E,
      0x8ABE1D7520F9C2A45CB1EB8E95CFD55262B70B29FEEC5864E19C054FF99129280E4646217791811142820341263C5315,
      0x8CB91E82A3386D280F5D6F7E50E641DF152F7109ED5456B31F166E6CAC0425A7CF3AB6AF6B7FC3103B883202E9046565⟩

def brainpool512 : NamedCurve where
  name := "brainpoolP512r1"
  id := .ofArcs [1, 3, 36, 3, 3, 2, 8, 1, 1, 13]
  curve :=
    ⟨0xAADD9DB8DBE9C48B3FD4E6AE33C9FC07CB308DB3B3C9D20ED6639CCA703308717D4D9B009BC66842AECDA12AE6A380E62881FF2F2D82C68528AA6056583A48F3,
      0x7830A3318B603B89E2327145AC234CC594CBDD8D3DF91610A83441CAEA9863BC2DED5D5AA8253AA10A2EF1C98B9AC8B57F1117A72BF2C7B9E7C1AC4D77FC94CA,
      0x3DF91610A83441CAEA9863BC2DED5D5AA8253AA10A2EF1C98B9AC8B57F1117A72BF2C7B9E7C1AC4D77FC94CADC083E67984050B75EBAE5DD2809BD638016F723,
      0x81AEE4BDD82ED9645A21322E9C4C6A9385ED9F70B5D916C1B43B62EEF4D0098EFF3B1F78E2D0D48D50D1687B93B97D5F7C6D5047406A5E688B352209BCB9F822,
      0x7DDE385D566332ECC0EABFA9CF7822FDF209F70024A57B1AA000C55B881F8111B2DCDE494A5F485E5BCA4BD88A2763AED1CA2B2FA8F0540678CD1E0F3AD80892,
      0xAADD9DB8DBE9C48B3FD4E6AE33C9FC07CB308DB3B3C9D20ED6639CCA70330870553E5C414CA92619418661197FAC10471DB1D381085DDADDB58796829CA90069⟩

/-- The curves on which keys may lie. -/
def all : List NamedCurve :=
  [p192, p224, p256, p384, p521, koblitz256, brainpool256, brainpool384, brainpool512]

/-- The curves that may be given by their equation, each with the seed that its
coefficients come from. -/
def spelled : List (NamedCurve × Nat) :=
  [(p256, 0xC49D360886E704936A6678E1139D26B7819F7E90),
    (p384, 0xA335926AA319A27A1D00896A6773A4827ACDAC73),
    (p521, 0xD09E8800291CB85396CC6717393284AAA0DA64BA)]

/-- The curve with an identifier. -/
def ofId? (id : Oid) : Option NamedCurve :=
  all.find? fun named => named.id = id

/-- A curve, spelled out. -/
def spell (named : NamedCurve) (seed : Option Der.BitString) : ExplicitCurve :=
  let c := named.curve
  let number (n : Nat) : Bytes := Bytes.ofNat c.width n
  ⟨1, c.prime, number c.a, number c.b, seed, 4 :: number c.baseX ++ number c.baseY, c.order,
    some 1⟩

/-- The curve that has been spelled out, with its seed or without. -/
def ofExplicit? (explicit : ExplicitCurve) : Option NamedCurve :=
  (spelled.find? fun (named, seed) =>
    explicit = named.spell none ∨ explicit = named.spell (some ⟨0, Bytes.ofNat 20 seed⟩)).map
      Prod.fst

end NamedCurve
end CertChain
