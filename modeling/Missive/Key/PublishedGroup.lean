import Missive.Key.ResidueGroup

/-!
# Published groups

Groups that are sound though half the modulus is no prime: the order of the generator
has been published with it, and need not be told.
-/

set_option autoImplicit false

namespace Missive.ResidueGroup

/-- The number with given parts of 256 bits, the highest first. -/
def ofParts (parts : List Nat) : Nat :=
  parts.foldl (fun number part => (number <<< 256) + part) 0

def modulus1024Order160 : ResidueGroup where
  modulus := ofParts [
    0xB10B8F96A080E01DDE92DE5EAE5D54EC52C99FBCFB06A3C69A6A9DCA52D23B61,
    0x6073E28675A23D189838EF1E2EE652C013ECB4AEA906112324975C3CD49B83BF,
    0xACCBDD7D90C4BD7098488E9C219A73724EFFD6FAE5644738FAA31A4FF55BCCC0,
    0xA151AF5F0DC8B4BD45BF37DF365C1A65E68CFDA76D4DA708DF1FB2BC2E4A4371]
  generator := ofParts [
    0xA4D1CBD5C3FD34126765A442EFB99905F8104DD258AC507FD6406CFF14266D31,
    0x266FEA1E5C41564B777E690F5504F213160217B4B01B886A5E91547F9E2749F4,
    0xD7FBD7D3B9A92EE1909D0D2263F80A76A6A24C087A091F531DBF0A0169B6A28A,
    0xD662A4D18E73AFA32D779D5918D08BC8858F4DCEF97C2A24855E6EEB22B3B2E5]
  order := some 0xF518AA8781A8DF278ABA4E7D64B7CB9D49462353

def modulus2048Order224 : ResidueGroup where
  modulus := ofParts [
    0xAD107E1E9123A9D0D660FAA79559C51FA20D64E5683B9FD1B54B1597B61D0A75,
    0xE6FA141DF95A56DBAF9A3C407BA1DF15EB3D688A309C180E1DE6B85A1274A0A6,
    0x6D3F8152AD6AC2129037C9EDEFDA4DF8D91E8FEF55B7394B7AD5B7D0B6C12207,
    0xC9F98D11ED34DBF6C6BA0B2C8BBC27BE6A00E0A0B9C49708B3BF8A3170918836,
    0x81286130BC8985DB1602E714415D9330278273C7DE31EFDC7310F7121FD5A074,
    0x15987D9ADC0A486DCDF93ACC44328387315D75E198C641A480CD86A1B9E587E8,
    0xBE60E69CC928B2B9C52172E413042E9B23F10B0E16E79763C9B53DCF4BA80A29,
    0xE3FB73C16B8E75B97EF363E2FFA31F71CF9DE5384E71B81C0AC4DFFE0C10E64F]
  generator := ofParts [
    0xAC4032EF4F2D9AE39DF30B5C8FFDAC506CDEBE7B89998CAF74866A08CFE4FFE3,
    0xA6824A4E10B9A6F0DD921F01A70C4AFAAB739D7700C29F52C57DB17C620A8652,
    0xBE5E9001A8D66AD7C17669101999024AF4D027275AC1348BB8A762D0521BC98A,
    0xE247150422EA1ED409939D54DA7460CDB5F6C6B250717CBEF180EB34118E98D1,
    0x19529A45D6F834566E3025E316A330EFBB77A86F0C1AB15B051AE3D428C8F8AC,
    0xB70A8137150B8EEB10E183EDD19963DDD9E263E4770589EF6AA21E7F5F2FF381,
    0xB539CCE3409D13CD566AFBB48D6C019181E1BCFE94B30269EDFE72FE9B6AA4BD,
    0x7B5A0F1C71CFFF4C19C418E1F6EC017981BC087F2A7065B384B890D3191F2BFA]
  order := some 0x801C0D34C58D93FE997177101F80535A4738CEBCBF389A99B36371EB

def modulus2048Order256 : ResidueGroup where
  modulus := ofParts [
    0x87A8E61DB4B6663CFFBBD19C651959998CEEF608660DD0F25D2CEED4435E3B00,
    0xE00DF8F1D61957D4FAF7DF4561B2AA3016C3D91134096FAA3BF4296D830E9A7C,
    0x209E0C6497517ABD5A8A9D306BCF67ED91F9E6725B4758C022E0B1EF4275BF7B,
    0x6C5BFC11D45F9088B941F54EB1E59BB8BC39A0BF12307F5C4FDB70C581B23F76,
    0xB63ACAE1CAA6B7902D52526735488A0EF13C6D9A51BFA4AB3AD8347796524D8E,
    0xF6A167B5A41825D967E144E5140564251CCACB83E6B486F6B3CA3F7971506026,
    0xC0B857F689962856DED4010ABD0BE621C3A3960A54E710C375F26375D7014103,
    0xA4B54330C198AF126116D2276E11715F693877FAD7EF09CADB094AE91E1A1597]
  generator := ofParts [
    0x3FB32C9B73134D0B2E77506660EDBD484CA7B18F21EF205407F4793A1A0BA125,
    0x10DBC15077BE463FFF4FED4AAC0BB555BE3A6C1B0C6B47B1BC3773BF7E8C6F62,
    0x901228F8C28CBB18A55AE31341000A650196F931C77A57F2DDF463E5E9EC144B,
    0x777DE62AAAB8A8628AC376D282D6ED3864E67982428EBC831D14348F6F2F9193,
    0xB5045AF2767164E1DFC967C1FB3F2E55A4BD1BFFE83B9C80D052B985D182EA0A,
    0xDB2A3B7313D3FE14C8484B1E052588B9B7D2BBD2DF016199ECD06E1557CD0915,
    0xB3353BBB64E0EC377FD028370DF92B52C7891428CDC67EB6184B523D1DB246C3,
    0x2F63078490F00EF8D647D148D47954515E2327CFEF98C582664B4C0F6CC41659]
  order := some 0x8CF83642A709A097B447997640129DA299B1A47D1EB3750BA308B0FE64F5FBD3

def published : List ResidueGroup :=
  [modulus1024Order160, modulus2048Order224, modulus2048Order256]

/-- Whether a group is one of them, and tells no other order. -/
def isPublished (group : ResidueGroup) : Bool :=
  published.any fun known =>
    group.modulus == known.modulus && group.generator == known.generator &&
      (group.order.isNone || group.order == known.order)

def admitsKeys (group : ResidueGroup) : Bool :=
  group.isPublished || group.isSound

end Missive.ResidueGroup
