import Descent.Unicode.Script.Basic

/-!
# Scripts from Mahajani to Zanabazar Square

The scripts by their English names, in alphabetical order.
-/

namespace Descent.Unicode

namespace Script

/-- Mahajani. -/
def mahajani : Script :=
  ⟨["mahajani", "mahj"],
    [⟨0x11150, 0x11176, 1⟩],
    [⟨0xB7, 0xB7, 1⟩, ⟨0x964, 0x96F, 1⟩, ⟨0xA830, 0xA839, 1⟩]⟩

/-- Makasar. -/
def makasar : Script :=
  ⟨["makasar", "maka"],
    [⟨0x11EE0, 0x11EF8, 1⟩],
    []⟩

/-- Malayalam. -/
def malayalam : Script :=
  ⟨["malayalam", "mlym"],
    [⟨0xD00, 0xD0C, 1⟩, ⟨0xD0E, 0xD10, 1⟩, ⟨0xD12, 0xD44, 1⟩, ⟨0xD46, 0xD48, 1⟩,
     ⟨0xD4A, 0xD4F, 1⟩, ⟨0xD54, 0xD63, 1⟩, ⟨0xD66, 0xD7F, 1⟩],
    [⟨0x951, 0x952, 1⟩, ⟨0x964, 0x965, 1⟩, ⟨0x1CDA, 0x1CDA, 1⟩, ⟨0x1CF2, 0x1CF2, 1⟩,
     ⟨0xA830, 0xA832, 1⟩]⟩

/-- Mandaic. -/
def mandaic : Script :=
  ⟨["mandaic", "mand"],
    [⟨0x840, 0x85B, 1⟩, ⟨0x85E, 0x85E, 1⟩],
    [⟨0x640, 0x640, 1⟩]⟩

/-- Manichaean. -/
def manichaean : Script :=
  ⟨["manichaean", "mani"],
    [⟨0x10AC0, 0x10AE6, 1⟩, ⟨0x10AEB, 0x10AF6, 1⟩],
    [⟨0x640, 0x640, 1⟩]⟩

/-- Marchen. -/
def marchen : Script :=
  ⟨["marchen", "marc"],
    [⟨0x11C70, 0x11C8F, 1⟩, ⟨0x11C92, 0x11CA7, 1⟩, ⟨0x11CA9, 0x11CB6, 1⟩],
    []⟩

/-- Masaram Gondi. -/
def masaramGondi : Script :=
  ⟨["masaramgondi", "gonm"],
    [⟨0x11D00, 0x11D06, 1⟩, ⟨0x11D08, 0x11D09, 1⟩, ⟨0x11D0B, 0x11D36, 1⟩, ⟨0x11D3A, 0x11D3A, 1⟩,
     ⟨0x11D3C, 0x11D3D, 1⟩, ⟨0x11D3F, 0x11D47, 1⟩, ⟨0x11D50, 0x11D59, 1⟩],
    [⟨0x964, 0x965, 1⟩]⟩

/-- Medefaidrin. -/
def medefaidrin : Script :=
  ⟨["medefaidrin", "medf"],
    [⟨0x16E40, 0x16E9A, 1⟩],
    []⟩

/-- Meetei Mayek. -/
def meeteiMayek : Script :=
  ⟨["meeteimayek", "mtei"],
    [⟨0xAAE0, 0xAAF6, 1⟩, ⟨0xABC0, 0xABED, 1⟩, ⟨0xABF0, 0xABF9, 1⟩],
    []⟩

/-- Mende Kikakui. -/
def mendeKikakui : Script :=
  ⟨["mendekikakui", "mend"],
    [⟨0x1E800, 0x1E8C4, 1⟩, ⟨0x1E8C7, 0x1E8D6, 1⟩],
    []⟩

/-- Meroitic Cursive. -/
def meroiticCursive : Script :=
  ⟨["meroiticcursive", "merc"],
    [⟨0x109A0, 0x109B7, 1⟩, ⟨0x109BC, 0x109CF, 1⟩, ⟨0x109D2, 0x109FF, 1⟩],
    []⟩

/-- Meroitic Hieroglyphs. -/
def meroiticHieroglyphs : Script :=
  ⟨["meroitichieroglyphs", "mero"],
    [⟨0x10980, 0x1099F, 1⟩],
    [⟨0x205D, 0x205D, 1⟩]⟩

/-- Miao. -/
def miao : Script :=
  ⟨["miao", "plrd"],
    [⟨0x16F00, 0x16F4A, 1⟩, ⟨0x16F4F, 0x16F87, 1⟩, ⟨0x16F8F, 0x16F9F, 1⟩],
    []⟩

/-- Modi. -/
def modi : Script :=
  ⟨["modi"],
    [⟨0x11600, 0x11644, 1⟩, ⟨0x11650, 0x11659, 1⟩],
    [⟨0xA830, 0xA839, 1⟩]⟩

/-- Mongolian. -/
def mongolian : Script :=
  ⟨["mongolian", "mong"],
    [⟨0x1800, 0x1801, 1⟩, ⟨0x1804, 0x1804, 1⟩, ⟨0x1806, 0x1819, 1⟩, ⟨0x1820, 0x1878, 1⟩,
     ⟨0x1880, 0x18AA, 1⟩, ⟨0x11660, 0x1166C, 1⟩],
    [⟨0x1802, 0x1803, 1⟩, ⟨0x1805, 0x1805, 1⟩, ⟨0x202F, 0x202F, 1⟩, ⟨0x3001, 0x3002, 1⟩,
     ⟨0x3008, 0x300B, 1⟩]⟩

/-- Mro. -/
def mro : Script :=
  ⟨["mro", "mroo"],
    [⟨0x16A40, 0x16A5E, 1⟩, ⟨0x16A60, 0x16A69, 1⟩, ⟨0x16A6E, 0x16A6F, 1⟩],
    []⟩

/-- Multani. -/
def multani : Script :=
  ⟨["multani", "mult"],
    [⟨0x11280, 0x11286, 1⟩, ⟨0x11288, 0x11288, 1⟩, ⟨0x1128A, 0x1128D, 1⟩, ⟨0x1128F, 0x1129D, 1⟩,
     ⟨0x1129F, 0x112A9, 1⟩],
    [⟨0xA66, 0xA6F, 1⟩]⟩

/-- Myanmar. -/
def myanmar : Script :=
  ⟨["myanmar", "mymr"],
    [⟨0x1000, 0x109F, 1⟩, ⟨0xA9E0, 0xA9FE, 1⟩, ⟨0xAA60, 0xAA7F, 1⟩, ⟨0x116D0, 0x116E3, 1⟩],
    [⟨0xA92E, 0xA92E, 1⟩]⟩

/-- Nabataean. -/
def nabataean : Script :=
  ⟨["nabataean", "nbat"],
    [⟨0x10880, 0x1089E, 1⟩, ⟨0x108A7, 0x108AF, 1⟩],
    []⟩

/-- Nag Mundari. -/
def nagMundari : Script :=
  ⟨["nagmundari", "nagm"],
    [⟨0x1E4D0, 0x1E4F9, 1⟩],
    []⟩

/-- Nandinagari. -/
def nandinagari : Script :=
  ⟨["nandinagari", "nand"],
    [⟨0x119A0, 0x119A7, 1⟩, ⟨0x119AA, 0x119D7, 1⟩, ⟨0x119DA, 0x119E4, 1⟩],
    [⟨0x951, 0x951, 1⟩, ⟨0x964, 0x965, 1⟩, ⟨0xCE6, 0xCEF, 1⟩, ⟨0x1CE9, 0x1CE9, 1⟩,
     ⟨0x1CF2, 0x1CF2, 1⟩, ⟨0x1CFA, 0x1CFA, 1⟩, ⟨0xA830, 0xA835, 1⟩]⟩

/-- New Tai Lue. -/
def newTaiLue : Script :=
  ⟨["newtailue", "talu"],
    [⟨0x1980, 0x19AB, 1⟩, ⟨0x19B0, 0x19C9, 1⟩, ⟨0x19D0, 0x19DA, 1⟩, ⟨0x19DE, 0x19DF, 1⟩],
    []⟩

/-- Newa. -/
def newa : Script :=
  ⟨["newa"],
    [⟨0x11400, 0x1145B, 1⟩, ⟨0x1145D, 0x11461, 1⟩],
    [⟨0x951, 0x952, 1⟩, ⟨0x1CD5, 0x1CD5, 1⟩, ⟨0x1CD7, 0x1CD8, 1⟩, ⟨0x1CE2, 0x1CE2, 1⟩,
     ⟨0x1CE9, 0x1CED, 2⟩]⟩

/-- Nko. -/
def nko : Script :=
  ⟨["nko", "nkoo"],
    [⟨0x7C0, 0x7FA, 1⟩, ⟨0x7FD, 0x7FF, 1⟩],
    [⟨0x60C, 0x60C, 1⟩, ⟨0x61B, 0x61B, 1⟩, ⟨0x61F, 0x61F, 1⟩, ⟨0xFD3E, 0xFD3F, 1⟩]⟩

/-- Nushu. -/
def nushu : Script :=
  ⟨["nushu", "nshu"],
    [⟨0x16FE1, 0x16FE1, 1⟩, ⟨0x1B170, 0x1B2FB, 1⟩],
    []⟩

/-- Nyiakeng Puachue Hmong. -/
def nyiakengPuachueHmong : Script :=
  ⟨["nyiakengpuachuehmong", "hmnp"],
    [⟨0x1E100, 0x1E12C, 1⟩, ⟨0x1E130, 0x1E13D, 1⟩, ⟨0x1E140, 0x1E149, 1⟩, ⟨0x1E14E, 0x1E14F, 1⟩],
    []⟩

/-- Ogham. -/
def ogham : Script :=
  ⟨["ogham", "ogam"],
    [⟨0x1680, 0x169C, 1⟩],
    []⟩

/-- Ol Chiki. -/
def olChiki : Script :=
  ⟨["olchiki", "olck"],
    [⟨0x1C50, 0x1C7F, 1⟩],
    []⟩

/-- Ol Onal. -/
def olOnal : Script :=
  ⟨["olonal", "onao"],
    [⟨0x1E5D0, 0x1E5FA, 1⟩, ⟨0x1E5FF, 0x1E5FF, 1⟩],
    [⟨0x964, 0x965, 1⟩]⟩

/-- Old Hungarian. -/
def oldHungarian : Script :=
  ⟨["oldhungarian", "hung"],
    [⟨0x10C80, 0x10CB2, 1⟩, ⟨0x10CC0, 0x10CF2, 1⟩, ⟨0x10CFA, 0x10CFF, 1⟩],
    [⟨0x205A, 0x205A, 1⟩, ⟨0x205D, 0x205D, 1⟩, ⟨0x2E31, 0x2E31, 1⟩, ⟨0x2E41, 0x2E41, 1⟩]⟩

/-- Old Italic. -/
def oldItalic : Script :=
  ⟨["olditalic", "ital"],
    [⟨0x10300, 0x10323, 1⟩, ⟨0x1032D, 0x1032F, 1⟩],
    []⟩

/-- Old North Arabian. -/
def oldNorthArabian : Script :=
  ⟨["oldnortharabian", "narb"],
    [⟨0x10A80, 0x10A9F, 1⟩],
    []⟩

/-- Old Permic. -/
def oldPermic : Script :=
  ⟨["oldpermic", "perm"],
    [⟨0x10350, 0x1037A, 1⟩],
    [⟨0xB7, 0xB7, 1⟩, ⟨0x300, 0x300, 1⟩, ⟨0x306, 0x308, 1⟩, ⟨0x313, 0x313, 1⟩, ⟨0x483, 0x483, 1⟩]⟩

/-- Old Persian. -/
def oldPersian : Script :=
  ⟨["oldpersian", "xpeo"],
    [⟨0x103A0, 0x103C3, 1⟩, ⟨0x103C8, 0x103D5, 1⟩],
    []⟩

/-- Old Sogdian. -/
def oldSogdian : Script :=
  ⟨["oldsogdian", "sogo"],
    [⟨0x10F00, 0x10F27, 1⟩],
    []⟩

/-- Old South Arabian. -/
def oldSouthArabian : Script :=
  ⟨["oldsoutharabian", "sarb"],
    [⟨0x10A60, 0x10A7F, 1⟩],
    []⟩

/-- Old Turkic. -/
def oldTurkic : Script :=
  ⟨["oldturkic", "orkh"],
    [⟨0x10C00, 0x10C48, 1⟩],
    [⟨0x205A, 0x205A, 1⟩, ⟨0x2E30, 0x2E30, 1⟩]⟩

/-- Old Uyghur. -/
def oldUyghur : Script :=
  ⟨["olduyghur", "ougr"],
    [⟨0x10F70, 0x10F89, 1⟩],
    [⟨0x640, 0x640, 1⟩, ⟨0x10AF2, 0x10AF2, 1⟩]⟩

/-- Oriya. -/
def oriya : Script :=
  ⟨["oriya", "orya"],
    [⟨0xB01, 0xB03, 1⟩, ⟨0xB05, 0xB0C, 1⟩, ⟨0xB0F, 0xB10, 1⟩, ⟨0xB13, 0xB28, 1⟩,
     ⟨0xB2A, 0xB30, 1⟩, ⟨0xB32, 0xB33, 1⟩, ⟨0xB35, 0xB39, 1⟩, ⟨0xB3C, 0xB44, 1⟩,
     ⟨0xB47, 0xB48, 1⟩, ⟨0xB4B, 0xB4D, 1⟩, ⟨0xB55, 0xB57, 1⟩, ⟨0xB5C, 0xB5D, 1⟩,
     ⟨0xB5F, 0xB63, 1⟩, ⟨0xB66, 0xB77, 1⟩],
    [⟨0x951, 0x952, 1⟩, ⟨0x964, 0x965, 1⟩, ⟨0x1CDA, 0x1CDA, 1⟩, ⟨0x1CF2, 0x1CF2, 1⟩]⟩

/-- Osage. -/
def osage : Script :=
  ⟨["osage", "osge"],
    [⟨0x104B0, 0x104D3, 1⟩, ⟨0x104D8, 0x104FB, 1⟩],
    [⟨0x301, 0x301, 1⟩, ⟨0x304, 0x304, 1⟩, ⟨0x30B, 0x30B, 1⟩, ⟨0x358, 0x358, 1⟩]⟩

/-- Osmanya. -/
def osmanya : Script :=
  ⟨["osmanya", "osma"],
    [⟨0x10480, 0x1049D, 1⟩, ⟨0x104A0, 0x104A9, 1⟩],
    []⟩

/-- Pahawh Hmong. -/
def pahawhHmong : Script :=
  ⟨["pahawhhmong", "hmng"],
    [⟨0x16B00, 0x16B45, 1⟩, ⟨0x16B50, 0x16B59, 1⟩, ⟨0x16B5B, 0x16B61, 1⟩, ⟨0x16B63, 0x16B77, 1⟩,
     ⟨0x16B7D, 0x16B8F, 1⟩],
    []⟩

/-- Palmyrene. -/
def palmyrene : Script :=
  ⟨["palmyrene", "palm"],
    [⟨0x10860, 0x1087F, 1⟩],
    []⟩

/-- Pau Cin Hau. -/
def pauCinHau : Script :=
  ⟨["paucinhau", "pauc"],
    [⟨0x11AC0, 0x11AF8, 1⟩],
    []⟩

/-- Phags Pa. -/
def phagsPa : Script :=
  ⟨["phagspa", "phag"],
    [⟨0xA840, 0xA877, 1⟩],
    [⟨0x1802, 0x1803, 1⟩, ⟨0x1805, 0x1805, 1⟩, ⟨0x202F, 0x202F, 1⟩, ⟨0x3002, 0x3002, 1⟩]⟩

/-- Phoenician. -/
def phoenician : Script :=
  ⟨["phoenician", "phnx"],
    [⟨0x10900, 0x1091B, 1⟩, ⟨0x1091F, 0x1091F, 1⟩],
    []⟩

/-- Psalter Pahlavi. -/
def psalterPahlavi : Script :=
  ⟨["psalterpahlavi", "phlp"],
    [⟨0x10B80, 0x10B91, 1⟩, ⟨0x10B99, 0x10B9C, 1⟩, ⟨0x10BA9, 0x10BAF, 1⟩],
    [⟨0x640, 0x640, 1⟩]⟩

/-- Rejang. -/
def rejang : Script :=
  ⟨["rejang", "rjng"],
    [⟨0xA930, 0xA953, 1⟩, ⟨0xA95F, 0xA95F, 1⟩],
    []⟩

/-- Runic. -/
def runic : Script :=
  ⟨["runic", "runr"],
    [⟨0x16A0, 0x16EA, 1⟩, ⟨0x16EE, 0x16F8, 1⟩],
    [⟨0x16EB, 0x16ED, 1⟩]⟩

/-- Samaritan. -/
def samaritan : Script :=
  ⟨["samaritan", "samr"],
    [⟨0x800, 0x82D, 1⟩, ⟨0x830, 0x83E, 1⟩],
    [⟨0x2E31, 0x2E31, 1⟩]⟩

/-- Saurashtra. -/
def saurashtra : Script :=
  ⟨["saurashtra", "saur"],
    [⟨0xA880, 0xA8C5, 1⟩, ⟨0xA8CE, 0xA8D9, 1⟩],
    []⟩

/-- Sharada. -/
def sharada : Script :=
  ⟨["sharada", "shrd"],
    [⟨0x11180, 0x111DF, 1⟩],
    [⟨0x951, 0x951, 1⟩, ⟨0x1CD7, 0x1CD7, 1⟩, ⟨0x1CD9, 0x1CD9, 1⟩, ⟨0x1CDC, 0x1CDD, 1⟩,
     ⟨0x1CE0, 0x1CE0, 1⟩, ⟨0x1CEA, 0x1CEA, 1⟩, ⟨0x1CED, 0x1CED, 1⟩, ⟨0xA830, 0xA835, 1⟩,
     ⟨0xA838, 0xA838, 1⟩]⟩

/-- Shavian. -/
def shavian : Script :=
  ⟨["shavian", "shaw"],
    [⟨0x10450, 0x1047F, 1⟩],
    [⟨0xB7, 0xB7, 1⟩]⟩

/-- Siddham. -/
def siddham : Script :=
  ⟨["siddham", "sidd"],
    [⟨0x11580, 0x115B5, 1⟩, ⟨0x115B8, 0x115DD, 1⟩],
    []⟩

/-- SignWriting. -/
def signwriting : Script :=
  ⟨["signwriting", "sgnw"],
    [⟨0x1D800, 0x1DA8B, 1⟩, ⟨0x1DA9B, 0x1DA9F, 1⟩, ⟨0x1DAA1, 0x1DAAF, 1⟩],
    []⟩

/-- Sinhala. -/
def sinhala : Script :=
  ⟨["sinhala", "sinh"],
    [⟨0xD81, 0xD83, 1⟩, ⟨0xD85, 0xD96, 1⟩, ⟨0xD9A, 0xDB1, 1⟩, ⟨0xDB3, 0xDBB, 1⟩,
     ⟨0xDBD, 0xDBD, 1⟩, ⟨0xDC0, 0xDC6, 1⟩, ⟨0xDCA, 0xDCA, 1⟩, ⟨0xDCF, 0xDD4, 1⟩,
     ⟨0xDD6, 0xDD6, 1⟩, ⟨0xDD8, 0xDDF, 1⟩, ⟨0xDE6, 0xDEF, 1⟩, ⟨0xDF2, 0xDF4, 1⟩,
     ⟨0x111E1, 0x111F4, 1⟩],
    [⟨0x964, 0x965, 1⟩, ⟨0x1CF2, 0x1CF2, 1⟩]⟩

/-- Sogdian. -/
def sogdian : Script :=
  ⟨["sogdian", "sogd"],
    [⟨0x10F30, 0x10F59, 1⟩],
    [⟨0x640, 0x640, 1⟩]⟩

/-- Sora Sompeng. -/
def soraSompeng : Script :=
  ⟨["sorasompeng", "sora"],
    [⟨0x110D0, 0x110E8, 1⟩, ⟨0x110F0, 0x110F9, 1⟩],
    []⟩

/-- Soyombo. -/
def soyombo : Script :=
  ⟨["soyombo", "soyo"],
    [⟨0x11A50, 0x11AA2, 1⟩],
    []⟩

/-- Sundanese. -/
def sundanese : Script :=
  ⟨["sundanese", "sund"],
    [⟨0x1B80, 0x1BBF, 1⟩, ⟨0x1CC0, 0x1CC7, 1⟩],
    []⟩

/-- Sunuwar. -/
def sunuwar : Script :=
  ⟨["sunuwar", "sunu"],
    [⟨0x11BC0, 0x11BE1, 1⟩, ⟨0x11BF0, 0x11BF9, 1⟩],
    [⟨0x300, 0x301, 1⟩, ⟨0x303, 0x303, 1⟩, ⟨0x30D, 0x30D, 1⟩, ⟨0x310, 0x310, 1⟩,
     ⟨0x32D, 0x32D, 1⟩, ⟨0x331, 0x331, 1⟩]⟩

/-- Syloti Nagri. -/
def sylotiNagri : Script :=
  ⟨["sylotinagri", "sylo"],
    [⟨0xA800, 0xA82C, 1⟩],
    [⟨0x964, 0x965, 1⟩, ⟨0x9E6, 0x9EF, 1⟩]⟩

/-- Syriac. -/
def syriac : Script :=
  ⟨["syriac", "syrc"],
    [⟨0x700, 0x70D, 1⟩, ⟨0x70F, 0x74A, 1⟩, ⟨0x74D, 0x74F, 1⟩, ⟨0x860, 0x86A, 1⟩],
    [⟨0x303, 0x304, 1⟩, ⟨0x307, 0x308, 1⟩, ⟨0x30A, 0x30A, 1⟩, ⟨0x323, 0x325, 1⟩,
     ⟨0x32D, 0x32E, 1⟩, ⟨0x330, 0x331, 1⟩, ⟨0x60C, 0x60C, 1⟩, ⟨0x61B, 0x61C, 1⟩,
     ⟨0x61F, 0x61F, 1⟩, ⟨0x640, 0x640, 1⟩, ⟨0x64B, 0x655, 1⟩, ⟨0x670, 0x670, 1⟩,
     ⟨0x1DF8, 0x1DF8, 1⟩, ⟨0x1DFA, 0x1DFA, 1⟩]⟩

/-- Tagalog. -/
def tagalog : Script :=
  ⟨["tagalog", "tglg"],
    [⟨0x1700, 0x1715, 1⟩, ⟨0x171F, 0x171F, 1⟩],
    [⟨0x1735, 0x1736, 1⟩]⟩

/-- Tagbanwa. -/
def tagbanwa : Script :=
  ⟨["tagbanwa", "tagb"],
    [⟨0x1760, 0x176C, 1⟩, ⟨0x176E, 0x1770, 1⟩, ⟨0x1772, 0x1773, 1⟩],
    [⟨0x1735, 0x1736, 1⟩]⟩

/-- Tai Le. -/
def taiLe : Script :=
  ⟨["taile", "tale"],
    [⟨0x1950, 0x196D, 1⟩, ⟨0x1970, 0x1974, 1⟩],
    [⟨0x300, 0x301, 1⟩, ⟨0x307, 0x308, 1⟩, ⟨0x30C, 0x30C, 1⟩, ⟨0x1040, 0x1049, 1⟩]⟩

/-- Tai Tham. -/
def taiTham : Script :=
  ⟨["taitham", "lana"],
    [⟨0x1A20, 0x1A5E, 1⟩, ⟨0x1A60, 0x1A7C, 1⟩, ⟨0x1A7F, 0x1A89, 1⟩, ⟨0x1A90, 0x1A99, 1⟩,
     ⟨0x1AA0, 0x1AAD, 1⟩],
    []⟩

/-- Tai Viet. -/
def taiViet : Script :=
  ⟨["taiviet", "tavt"],
    [⟨0xAA80, 0xAAC2, 1⟩, ⟨0xAADB, 0xAADF, 1⟩],
    []⟩

/-- Takri. -/
def takri : Script :=
  ⟨["takri", "takr"],
    [⟨0x11680, 0x116B9, 1⟩, ⟨0x116C0, 0x116C9, 1⟩],
    [⟨0x964, 0x965, 1⟩, ⟨0xA830, 0xA839, 1⟩]⟩

/-- Tamil. -/
def tamil : Script :=
  ⟨["tamil", "taml"],
    [⟨0xB82, 0xB83, 1⟩, ⟨0xB85, 0xB8A, 1⟩, ⟨0xB8E, 0xB90, 1⟩, ⟨0xB92, 0xB95, 1⟩,
     ⟨0xB99, 0xB9A, 1⟩, ⟨0xB9C, 0xB9C, 1⟩, ⟨0xB9E, 0xB9F, 1⟩, ⟨0xBA3, 0xBA4, 1⟩,
     ⟨0xBA8, 0xBAA, 1⟩, ⟨0xBAE, 0xBB9, 1⟩, ⟨0xBBE, 0xBC2, 1⟩, ⟨0xBC6, 0xBC8, 1⟩,
     ⟨0xBCA, 0xBCD, 1⟩, ⟨0xBD0, 0xBD0, 1⟩, ⟨0xBD7, 0xBD7, 1⟩, ⟨0xBE6, 0xBFA, 1⟩,
     ⟨0x11FC0, 0x11FF1, 1⟩, ⟨0x11FFF, 0x11FFF, 1⟩],
    [⟨0x951, 0x952, 1⟩, ⟨0x964, 0x965, 1⟩, ⟨0x1CDA, 0x1CDA, 1⟩, ⟨0xA8F3, 0xA8F3, 1⟩,
     ⟨0x11301, 0x11301, 1⟩, ⟨0x11303, 0x11303, 1⟩, ⟨0x1133B, 0x1133C, 1⟩]⟩

/-- Tangsa. -/
def tangsa : Script :=
  ⟨["tangsa", "tnsa"],
    [⟨0x16A70, 0x16ABE, 1⟩, ⟨0x16AC0, 0x16AC9, 1⟩],
    []⟩

/-- Tangut. -/
def tangut : Script :=
  ⟨["tangut", "tang"],
    [⟨0x16FE0, 0x16FE0, 1⟩, ⟨0x17000, 0x187F7, 1⟩, ⟨0x18800, 0x18AFF, 1⟩, ⟨0x18D00, 0x18D08, 1⟩],
    [⟨0x2FF0, 0x2FFF, 1⟩, ⟨0x31EF, 0x31EF, 1⟩]⟩

/-- Telugu. -/
def telugu : Script :=
  ⟨["telugu", "telu"],
    [⟨0xC00, 0xC0C, 1⟩, ⟨0xC0E, 0xC10, 1⟩, ⟨0xC12, 0xC28, 1⟩, ⟨0xC2A, 0xC39, 1⟩,
     ⟨0xC3C, 0xC44, 1⟩, ⟨0xC46, 0xC48, 1⟩, ⟨0xC4A, 0xC4D, 1⟩, ⟨0xC55, 0xC56, 1⟩,
     ⟨0xC58, 0xC5A, 1⟩, ⟨0xC5D, 0xC5D, 1⟩, ⟨0xC60, 0xC63, 1⟩, ⟨0xC66, 0xC6F, 1⟩,
     ⟨0xC77, 0xC7F, 1⟩],
    [⟨0x951, 0x952, 1⟩, ⟨0x964, 0x965, 1⟩, ⟨0x1CD5, 0x1CD6, 1⟩, ⟨0x1CD8, 0x1CD8, 1⟩,
     ⟨0x1CDA, 0x1CDA, 1⟩, ⟨0x1CF2, 0x1CF2, 1⟩]⟩

/-- Thaana. -/
def thaana : Script :=
  ⟨["thaana", "thaa"],
    [⟨0x780, 0x7B1, 1⟩],
    [⟨0x60C, 0x60C, 1⟩, ⟨0x61B, 0x61C, 1⟩, ⟨0x61F, 0x61F, 1⟩, ⟨0x660, 0x669, 1⟩,
     ⟨0xFDF2, 0xFDF2, 1⟩, ⟨0xFDFD, 0xFDFD, 1⟩]⟩

/-- Thai. -/
def thai : Script :=
  ⟨["thai"],
    [⟨0xE01, 0xE3A, 1⟩, ⟨0xE40, 0xE5B, 1⟩],
    [⟨0x2BC, 0x2BC, 1⟩, ⟨0x2D7, 0x2D7, 1⟩, ⟨0x303, 0x303, 1⟩, ⟨0x331, 0x331, 1⟩]⟩

/-- Tibetan. -/
def tibetan : Script :=
  ⟨["tibetan", "tibt"],
    [⟨0xF00, 0xF47, 1⟩, ⟨0xF49, 0xF6C, 1⟩, ⟨0xF71, 0xF97, 1⟩, ⟨0xF99, 0xFBC, 1⟩,
     ⟨0xFBE, 0xFCC, 1⟩, ⟨0xFCE, 0xFD4, 1⟩, ⟨0xFD9, 0xFDA, 1⟩],
    [⟨0x3008, 0x300B, 1⟩]⟩

/-- Tifinagh. -/
def tifinagh : Script :=
  ⟨["tifinagh", "tfng"],
    [⟨0x2D30, 0x2D67, 1⟩, ⟨0x2D6F, 0x2D70, 1⟩, ⟨0x2D7F, 0x2D7F, 1⟩],
    [⟨0x302, 0x306, 2⟩, ⟨0x307, 0x309, 1⟩, ⟨0x323, 0x323, 1⟩]⟩

/-- Tirhuta. -/
def tirhuta : Script :=
  ⟨["tirhuta", "tirh"],
    [⟨0x11480, 0x114C7, 1⟩, ⟨0x114D0, 0x114D9, 1⟩],
    [⟨0x951, 0x952, 1⟩, ⟨0x964, 0x965, 1⟩, ⟨0x1CD5, 0x1CD5, 1⟩, ⟨0x1CE2, 0x1CE2, 1⟩,
     ⟨0x1CF2, 0x1CF2, 1⟩, ⟨0xA830, 0xA839, 1⟩]⟩

/-- Todhri. -/
def todhri : Script :=
  ⟨["todhri", "todr"],
    [⟨0x105C0, 0x105F3, 1⟩],
    [⟨0x301, 0x301, 1⟩, ⟨0x304, 0x304, 1⟩, ⟨0x307, 0x307, 1⟩, ⟨0x311, 0x311, 1⟩,
     ⟨0x313, 0x313, 1⟩, ⟨0x35E, 0x35E, 1⟩]⟩

/-- Toto. -/
def toto : Script :=
  ⟨["toto"],
    [⟨0x1E290, 0x1E2AE, 1⟩],
    [⟨0x2BC, 0x2BC, 1⟩]⟩

/-- Tulu Tigalari. -/
def tuluTigalari : Script :=
  ⟨["tulutigalari", "tutg"],
    [⟨0x11380, 0x11389, 1⟩, ⟨0x1138B, 0x1138B, 1⟩, ⟨0x1138E, 0x1138E, 1⟩, ⟨0x11390, 0x113B5, 1⟩,
     ⟨0x113B7, 0x113C0, 1⟩, ⟨0x113C2, 0x113C2, 1⟩, ⟨0x113C5, 0x113C5, 1⟩, ⟨0x113C7, 0x113CA, 1⟩,
     ⟨0x113CC, 0x113D5, 1⟩, ⟨0x113D7, 0x113D8, 1⟩, ⟨0x113E1, 0x113E2, 1⟩],
    [⟨0xCE6, 0xCEF, 1⟩, ⟨0x1CF2, 0x1CF2, 1⟩, ⟨0x1CF4, 0x1CF4, 1⟩, ⟨0xA830, 0xA835, 1⟩,
     ⟨0xA8F1, 0xA8F1, 1⟩]⟩

/-- Ugaritic. -/
def ugaritic : Script :=
  ⟨["ugaritic", "ugar"],
    [⟨0x10380, 0x1039D, 1⟩, ⟨0x1039F, 0x1039F, 1⟩],
    []⟩

/-- Vai. -/
def vai : Script :=
  ⟨["vai", "vaii"],
    [⟨0xA500, 0xA62B, 1⟩],
    []⟩

/-- Vithkuqi. -/
def vithkuqi : Script :=
  ⟨["vithkuqi", "vith"],
    [⟨0x10570, 0x1057A, 1⟩, ⟨0x1057C, 0x1058A, 1⟩, ⟨0x1058C, 0x10592, 1⟩, ⟨0x10594, 0x10595, 1⟩,
     ⟨0x10597, 0x105A1, 1⟩, ⟨0x105A3, 0x105B1, 1⟩, ⟨0x105B3, 0x105B9, 1⟩, ⟨0x105BB, 0x105BC, 1⟩],
    []⟩

/-- Wancho. -/
def wancho : Script :=
  ⟨["wancho", "wcho"],
    [⟨0x1E2C0, 0x1E2F9, 1⟩, ⟨0x1E2FF, 0x1E2FF, 1⟩],
    []⟩

/-- Warang Citi. -/
def warangCiti : Script :=
  ⟨["warangciti", "wara"],
    [⟨0x118A0, 0x118F2, 1⟩, ⟨0x118FF, 0x118FF, 1⟩],
    []⟩

/-- Yezidi. -/
def yezidi : Script :=
  ⟨["yezidi", "yezi"],
    [⟨0x10E80, 0x10EA9, 1⟩, ⟨0x10EAB, 0x10EAD, 1⟩, ⟨0x10EB0, 0x10EB1, 1⟩],
    [⟨0x60C, 0x60C, 1⟩, ⟨0x61B, 0x61B, 1⟩, ⟨0x61F, 0x61F, 1⟩, ⟨0x660, 0x669, 1⟩]⟩

/-- Yi. -/
def yi : Script :=
  ⟨["yi", "yiii"],
    [⟨0xA000, 0xA48C, 1⟩, ⟨0xA490, 0xA4C6, 1⟩],
    [⟨0x3001, 0x3002, 1⟩, ⟨0x3008, 0x3011, 1⟩, ⟨0x3014, 0x301B, 1⟩, ⟨0x30FB, 0x30FB, 1⟩,
     ⟨0xFF61, 0xFF65, 1⟩]⟩

/-- Zanabazar Square. -/
def zanabazarSquare : Script :=
  ⟨["zanabazarsquare", "zanb"],
    [⟨0x11A00, 0x11A47, 1⟩],
    []⟩

/-- The scripts from Mahajani to Zanabazar Square. -/
def fromMahajani : List Script :=
  [mahajani, makasar, malayalam, mandaic, manichaean, marchen, masaramGondi, medefaidrin,
   meeteiMayek, mendeKikakui, meroiticCursive, meroiticHieroglyphs, miao, modi, mongolian, mro,
   multani, myanmar, nabataean, nagMundari, nandinagari, newTaiLue, newa, nko, nushu,
   nyiakengPuachueHmong, ogham, olChiki, olOnal, oldHungarian, oldItalic, oldNorthArabian,
   oldPermic, oldPersian, oldSogdian, oldSouthArabian, oldTurkic, oldUyghur, oriya, osage,
   osmanya, pahawhHmong, palmyrene, pauCinHau, phagsPa, phoenician, psalterPahlavi, rejang, runic,
   samaritan, saurashtra, sharada, shavian, siddham, signwriting, sinhala, sogdian, soraSompeng,
   soyombo, sundanese, sunuwar, sylotiNagri, syriac, tagalog, tagbanwa, taiLe, taiTham, taiViet,
   takri, tamil, tangsa, tangut, telugu, thaana, thai, tibetan, tifinagh, tirhuta, todhri, toto,
   tuluTigalari, ugaritic, vai, vithkuqi, wancho, warangCiti, yezidi, yi, zanabazarSquare]

end Script

end Descent.Unicode
