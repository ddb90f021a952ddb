import OnlineAssembler.Text.Basic

namespace OnlineAssembler.Web.Label

/-- The classes of marks in Unicode 14, from the inside of a letter outwards. Marks of one class
keep their order. -/
def markClasses : List (Nat × List Nat) :=
  [(1, [0x334, 0x339, 0x1CD4, 0x1CD5, 0x1CE2, 0x1CE9, 0x20D2, 0x20D4, 0x20D8, 0x20DB, 0x20E5,
     0x20E7, 0x20EA, 0x20EC, 0x10A39, 0x10A3A, 0x16AF0, 0x16AF5, 0x1BC9E, 0x1BC9F, 0x1D167,
     0x1D16A]), (6, [0x16FF0, 0x16FF2]), (7, [0x93C, 0x93D, 0x9BC, 0x9BD, 0xA3C, 0xA3D, 0xABC,
     0xABD, 0xB3C, 0xB3D, 0xC3C, 0xC3D, 0xCBC, 0xCBD, 0x1037, 0x1038, 0x1B34, 0x1B35, 0x1BE6,
     0x1BE7, 0x1C37, 0x1C38, 0xA9B3, 0xA9B4, 0x110BA, 0x110BB, 0x11173, 0x11174, 0x111CA, 0x111CB,
     0x11236, 0x11237, 0x112E9, 0x112EA, 0x1133B, 0x1133D, 0x11446, 0x11447, 0x114C3, 0x114C4,
     0x115C0, 0x115C1, 0x116B7, 0x116B8, 0x1183A, 0x1183B, 0x11943, 0x11944, 0x11D42, 0x11D43,
     0x1E94A, 0x1E94B]), (8, [0x3099, 0x309B]), (9, [0x94D, 0x94E, 0x9CD, 0x9CE, 0xA4D, 0xA4E,
     0xACD, 0xACE, 0xB4D, 0xB4E, 0xBCD, 0xBCE, 0xC4D, 0xC4E, 0xCCD, 0xCCE, 0xD3B, 0xD3D, 0xD4D,
     0xD4E, 0xDCA, 0xDCB, 0xE3A, 0xE3B, 0xEBA, 0xEBB, 0xF84, 0xF85, 0x1039, 0x103B, 0x1714, 0x1716,
     0x1734, 0x1735, 0x17D2, 0x17D3, 0x1A60, 0x1A61, 0x1B44, 0x1B45, 0x1BAA, 0x1BAC, 0x1BF2, 0x1BF4,
     0x2D7F, 0x2D80, 0xA806, 0xA807, 0xA82C, 0xA82D, 0xA8C4, 0xA8C5, 0xA953, 0xA954, 0xA9C0, 0xA9C1,
     0xAAF6, 0xAAF7, 0xABED, 0xABEE, 0x10A3F, 0x10A40, 0x11046, 0x11047, 0x11070, 0x11071, 0x1107F,
     0x11080, 0x110B9, 0x110BA, 0x11133, 0x11135, 0x111C0, 0x111C1, 0x11235, 0x11236, 0x112EA,
     0x112EB, 0x1134D, 0x1134E, 0x11442, 0x11443, 0x114C2, 0x114C3, 0x115BF, 0x115C0, 0x1163F,
     0x11640, 0x116B6, 0x116B7, 0x1172B, 0x1172C, 0x11839, 0x1183A, 0x1193D, 0x1193F, 0x119E0,
     0x119E1, 0x11A34, 0x11A35, 0x11A47, 0x11A48, 0x11A99, 0x11A9A, 0x11C3F, 0x11C40, 0x11D44,
     0x11D46, 0x11D97, 0x11D98]), (10, [0x5B0, 0x5B1]), (11, [0x5B1, 0x5B2]), (12, [0x5B2, 0x5B3]),
   (13, [0x5B3, 0x5B4]), (14, [0x5B4, 0x5B5]), (15, [0x5B5, 0x5B6]), (16, [0x5B6, 0x5B7]),
   (17, [0x5B7, 0x5B8]), (18, [0x5B8, 0x5B9, 0x5C7, 0x5C8]), (19, [0x5B9, 0x5BB]), (20, [0x5BB,
     0x5BC]), (21, [0x5BC, 0x5BD]), (22, [0x5BD, 0x5BE]), (23, [0x5BF, 0x5C0]), (24, [0x5C1,
     0x5C2]), (25, [0x5C2, 0x5C3]), (26, [0xFB1E, 0xFB1F]), (27, [0x64B, 0x64C, 0x8F0, 0x8F1]),
   (28, [0x64C, 0x64D, 0x8F1, 0x8F2]), (29, [0x64D, 0x64E, 0x8F2, 0x8F3]), (30, [0x618, 0x619,
     0x64E, 0x64F]), (31, [0x619, 0x61A, 0x64F, 0x650]), (32, [0x61A, 0x61B, 0x650, 0x651]),
   (33, [0x651, 0x652]), (34, [0x652, 0x653]), (35, [0x670, 0x671]), (36, [0x711, 0x712]),
   (84, [0xC55, 0xC56]), (91, [0xC56, 0xC57]), (103, [0xE38, 0xE3A]), (107, [0xE48, 0xE4C]),
   (118, [0xEB8, 0xEBA]), (122, [0xEC8, 0xECC]), (129, [0xF71, 0xF72]), (130, [0xF72, 0xF73, 0xF7A,
     0xF7E, 0xF80, 0xF81]), (132, [0xF74, 0xF75]), (202, [0x321, 0x323, 0x327, 0x329, 0x1DD0,
     0x1DD1]), (214, [0x1DCE, 0x1DCF]), (216, [0x31B, 0x31C, 0xF39, 0xF3A, 0x1D165, 0x1D167,
     0x1D16E, 0x1D173]), (218, [0x1DFA, 0x1DFB, 0x302A, 0x302B]), (220, [0x316, 0x31A, 0x31C, 0x321,
     0x323, 0x327, 0x329, 0x334, 0x339, 0x33D, 0x347, 0x34A, 0x34D, 0x34F, 0x353, 0x357, 0x359,
     0x35B, 0x591, 0x592, 0x596, 0x597, 0x59B, 0x59C, 0x5A2, 0x5A8, 0x5AA, 0x5AB, 0x5C5, 0x5C6,
     0x655, 0x657, 0x65C, 0x65D, 0x65F, 0x660, 0x6E3, 0x6E4, 0x6EA, 0x6EB, 0x6ED, 0x6EE, 0x731,
     0x732, 0x734, 0x735, 0x737, 0x73A, 0x73B, 0x73D, 0x73E, 0x73F, 0x742, 0x743, 0x744, 0x745,
     0x746, 0x747, 0x748, 0x749, 0x7F2, 0x7F3, 0x7FD, 0x7FE, 0x859, 0x85C, 0x899, 0x89C, 0x8CF,
     0x8D4, 0x8E3, 0x8E4, 0x8E6, 0x8E7, 0x8E9, 0x8EA, 0x8ED, 0x8F0, 0x8F6, 0x8F7, 0x8F9, 0x8FB,
     0x952, 0x953, 0xF18, 0xF1A, 0xF35, 0xF36, 0xF37, 0xF38, 0xFC6, 0xFC7, 0x108D, 0x108E, 0x193B,
     0x193C, 0x1A18, 0x1A19, 0x1A7F, 0x1A80, 0x1AB5, 0x1ABB, 0x1ABD, 0x1ABE, 0x1ABF, 0x1AC1, 0x1AC3,
     0x1AC5, 0x1ACA, 0x1ACB, 0x1B6C, 0x1B6D, 0x1CD5, 0x1CDA, 0x1CDC, 0x1CE0, 0x1CED, 0x1CEE, 0x1DC2,
     0x1DC3, 0x1DCA, 0x1DCB, 0x1DCF, 0x1DD0, 0x1DF9, 0x1DFA, 0x1DFD, 0x1DFE, 0x1DFF, 0x1E00, 0x20E8,
     0x20E9, 0x20EC, 0x20F0, 0xA92B, 0xA92E, 0xAAB4, 0xAAB5, 0xFE27, 0xFE2E, 0x101FD, 0x101FE,
     0x102E0, 0x102E1, 0x10A0D, 0x10A0E, 0x10A3A, 0x10A3B, 0x10AE6, 0x10AE7, 0x10F46, 0x10F48,
     0x10F4B, 0x10F4C, 0x10F4D, 0x10F51, 0x10F83, 0x10F84, 0x10F85, 0x10F86, 0x1D17B, 0x1D183,
     0x1D18A, 0x1D18C, 0x1E8D0, 0x1E8D7]), (222, [0x59A, 0x59B, 0x5AD, 0x5AE, 0x1939, 0x193A,
     0x302D, 0x302E]), (224, [0x302E, 0x3030]), (226, [0x1D16D, 0x1D16E]), (228, [0x5AE, 0x5AF,
     0x18A9, 0x18AA, 0x1DF7, 0x1DF9, 0x302B, 0x302C]), (230, [0x300, 0x315, 0x33D, 0x347, 0x34A,
     0x34D, 0x350, 0x353, 0x357, 0x358, 0x35B, 0x35C, 0x363, 0x370, 0x483, 0x488, 0x592, 0x596,
     0x597, 0x59A, 0x59C, 0x5A2, 0x5A8, 0x5AA, 0x5AB, 0x5AD, 0x5AF, 0x5B0, 0x5C4, 0x5C5, 0x610,
     0x618, 0x653, 0x655, 0x657, 0x65C, 0x65D, 0x65F, 0x6D6, 0x6DD, 0x6DF, 0x6E3, 0x6E4, 0x6E5,
     0x6E7, 0x6E9, 0x6EB, 0x6ED, 0x730, 0x731, 0x732, 0x734, 0x735, 0x737, 0x73A, 0x73B, 0x73D,
     0x73E, 0x73F, 0x742, 0x743, 0x744, 0x745, 0x746, 0x747, 0x748, 0x749, 0x74B, 0x7EB, 0x7F2,
     0x7F3, 0x7F4, 0x816, 0x81A, 0x81B, 0x824, 0x825, 0x828, 0x829, 0x82E, 0x898, 0x899, 0x89C,
     0x8A0, 0x8CA, 0x8CF, 0x8D4, 0x8E2, 0x8E4, 0x8E6, 0x8E7, 0x8E9, 0x8EA, 0x8ED, 0x8F3, 0x8F6,
     0x8F7, 0x8F9, 0x8FB, 0x900, 0x951, 0x952, 0x953, 0x955, 0x9FE, 0x9FF, 0xF82, 0xF84, 0xF86,
     0xF88, 0x135D, 0x1360, 0x17DD, 0x17DE, 0x193A, 0x193B, 0x1A17, 0x1A18, 0x1A75, 0x1A7D, 0x1AB0,
     0x1AB5, 0x1ABB, 0x1ABD, 0x1AC1, 0x1AC3, 0x1AC5, 0x1ACA, 0x1ACB, 0x1ACF, 0x1B6B, 0x1B6C, 0x1B6D,
     0x1B74, 0x1CD0, 0x1CD3, 0x1CDA, 0x1CDC, 0x1CE0, 0x1CE1, 0x1CF4, 0x1CF5, 0x1CF8, 0x1CFA, 0x1DC0,
     0x1DC2, 0x1DC3, 0x1DCA, 0x1DCB, 0x1DCD, 0x1DD1, 0x1DF6, 0x1DFB, 0x1DFC, 0x1DFE, 0x1DFF, 0x20D0,
     0x20D2, 0x20D4, 0x20D8, 0x20DB, 0x20DD, 0x20E1, 0x20E2, 0x20E7, 0x20E8, 0x20E9, 0x20EA, 0x20F0,
     0x20F1, 0x2CEF, 0x2CF2, 0x2DE0, 0x2E00, 0xA66F, 0xA670, 0xA674, 0xA67E, 0xA69E, 0xA6A0, 0xA6F0,
     0xA6F2, 0xA8E0, 0xA8F2, 0xAAB0, 0xAAB1, 0xAAB2, 0xAAB4, 0xAAB7, 0xAAB9, 0xAABE, 0xAAC0, 0xAAC1,
     0xAAC2, 0xFE20, 0xFE27, 0xFE2E, 0xFE30, 0x10376, 0x1037B, 0x10A0F, 0x10A10, 0x10A38, 0x10A39,
     0x10AE5, 0x10AE6, 0x10D24, 0x10D28, 0x10EAB, 0x10EAD, 0x10F48, 0x10F4B, 0x10F4C, 0x10F4D,
     0x10F82, 0x10F83, 0x10F84, 0x10F85, 0x11100, 0x11103, 0x11366, 0x1136D, 0x11370, 0x11375,
     0x1145E, 0x1145F, 0x16B30, 0x16B37, 0x1D185, 0x1D18A, 0x1D1AA, 0x1D1AE, 0x1D242, 0x1D245,
     0x1E000, 0x1E007, 0x1E008, 0x1E019, 0x1E01B, 0x1E022, 0x1E023, 0x1E025, 0x1E026, 0x1E02B,
     0x1E130, 0x1E137, 0x1E2AE, 0x1E2AF, 0x1E2EC, 0x1E2F0, 0x1E944, 0x1E94A]), (232, [0x315, 0x316,
     0x31A, 0x31B, 0x358, 0x359, 0x1DF6, 0x1DF7, 0x302C, 0x302D]), (233, [0x35C, 0x35D, 0x35F,
     0x360, 0x362, 0x363, 0x1DFC, 0x1DFD]), (234, [0x35D, 0x35F, 0x360, 0x362, 0x1DCD, 0x1DCE])]

def markClass (c : Char) : Nat :=
  (markClasses.find? fun row ↦ Text.isWithin row.2 c).elim 0 (·.1)

/-- The code point of a mark, letters that take it, and what they are with it. -/
def markedLetters : List (Nat × String × String) :=
  [(0x300, "aeinouwyâêôüăēōơưαεηιουωϊϋеиἀἁἐἑἠἡἰἱὀὁὐ", "àèìǹòùẁỳầềồǜằḕṑờừὰὲὴὶὸὺὼῒῢѐѝἂἃἒἓἢἣἲἳὂὃὒ"),
   (0x300, "ὑὠὡ", "ὓὢὣ"),
   (0x301, "acegiklmnoprsuwyzâåæçêïôõøüăēōũơưαεηιου", "áćéǵíḱĺḿńóṕŕśúẃýźấǻǽḉếḯốṍǿǘắḗṓṹớứάέήίόύ"),
   (0x301, "ωϊϋгкἀἁἐἑἠἡἰἱὀὁὐὑὠὡ", "ώΐΰѓќἄἅἔἕἤἥἴἵὄὅὔὕὤὥ"),
   (0x302, "aceghijosuwyzạẹọ", "âĉêĝĥîĵôŝûŵŷẑậệộ"), (0x303, "aeinouvyâêôăơư", "ãẽĩñõũṽỹẫễỗẵỡữ"),
   (0x304, "aegiouyäæõöüǫȧȯαιυиуḷṛ", "āēḡīōūȳǟǣȭȫǖǭǡȱᾱῑῡӣӯḹṝ"),
   (0x306, "aegiouȩαιυаежиуạ", "ăĕğĭŏŭḝᾰῐῠӑӗӂйўặ"),
   (0x307, "abcdefghmnoprstwxyzśšṣ", "ȧḃċḋėḟġḣṁṅȯṗṙṡṫẇẋẏżṥṧṩ"),
   (0x308, "aehiotuwxyõūιυаежзиоучыэіәө", "äëḧïöẗüẅẍÿṏṻϊϋӓёӝӟӥӧӱӵӹӭїӛӫ"),
   (0x309, "aeiouyâêôăơư", "ảẻỉỏủỷẩểổẳởử"), (0x30A, "auwy", "åůẘẙ"), (0x30B, "ouу", "őűӳ"),
   (0x30C, "acdeghijklnorstuzüʒ", "ǎčďěǧȟǐǰǩľňǒřšťǔžǚǯ"), (0x30F, "aeioruѵ", "ȁȅȉȍȑȕѷ"),
   (0x311, "aeioru", "ȃȇȋȏȓȗ"), (0x313, "αεηιορυω", "ἀἐἠἰὀῤὐὠ"), (0x314, "αεηιορυω", "ἁἑἡἱὁῥὑὡ"),
   (0x31B, "ou", "ơư"), (0x323, "abdehiklmnorstuvwyzơư", "ạḅḍẹḥịḳḷṃṇọṛṣṭụṿẉỵẓợự"),
   (0x324, "u", "ṳ"), (0x325, "a", "ḁ"), (0x326, "st", "șț"), (0x327, "cdeghklnrst", "çḑȩģḩķļņŗşţ"),
   (0x328, "aeiou", "ąęįǫų"), (0x32D, "delntu", "ḓḙḽṋṱṷ"), (0x32E, "h", "ḫ"), (0x330, "eiu", "ḛḭṵ"),
   (0x331, "bdhklnrtz", "ḇḏẖḵḻṉṟṯẕ"),
   (0x338, "<=>←→↔⇐⇒⇔∃∈∋∣∥∼≃≅≈≍≡≤≥≲≳≶≷≺≻≼≽⊂⊃⊆⊇⊑⊒⊢⊨⊩", "≮≠≯↚↛↮⇍⇏⇎∄∉∌∤∦≁≄≇≉≭≢≰≱≴≵≸≹⊀⊁⋠⋡⊄⊅⊈⊉⋢⋣⊬⊭⊮"),
   (0x338, "⊫⊲⊳⊴⊵", "⊯⋪⋫⋬⋭"), (0x342, "αηιυωϊϋἀἁἠἡἰἱὐὑὠὡ", "ᾶῆῖῦῶῗῧἆἇἦἧἶἷὖὗὦὧ"), (0x653, "ا", "آ"),
   (0x654, "اويہےە", "أؤئۂۓۀ"), (0x655, "ا", "إ"), (0x93C, "नरळ", "ऩऱऴ"),
   (0x9BE, "\u09c7", "\u09cb"), (0x9D7, "\u09c7", "\u09cc"), (0xB3E, "\u0b47", "\u0b4b"),
   (0xB56, "\u0b47", "\u0b48"), (0xB57, "\u0b47", "\u0b4c"),
   (0xBBE, "\u0bc6\u0bc7", "\u0bca\u0bcb"), (0xBD7, "ஒ\u0bc6", "ஔ\u0bcc"),
   (0xC56, "\u0c46", "\u0c48"), (0xCC2, "\u0cc6", "\u0cca"),
   (0xCD5, "\u0cbf\u0cc6\u0cca", "\u0cc0\u0cc7\u0ccb"), (0xCD6, "\u0cc6", "\u0cc8"),
   (0xD3E, "\u0d46\u0d47", "\u0d4a\u0d4b"), (0xD57, "\u0d46", "\u0d4c"),
   (0xDCA, "\u0dd9\u0ddc", "\u0dda\u0ddd"), (0xDCF, "\u0dd9", "\u0ddc"),
   (0xDDF, "\u0dd9", "\u0dde"), (0x102E, "ဥ", "ဦ"),
   (0x3099, "うかきくけこさしすせそたちつてとはひふ", "ゔがぎぐげござじずぜぞだぢづでどばびぶ"),
   (0x3099, "へほゝウカキクケコサシスセソタチツテト", "べぼゞヴガギグゲゴザジズゼゾダヂヅデド"),
   (0x3099, "ハヒフヘホワヰヱヲヽ", "バビブベボヷヸヹヺヾ"),
   (0x309A, "はひふへほハヒフヘホ", "ぱぴぷぺぽパピプペポ")]

/-- These are newer than Unicode 3.2: the letters take the marks, and nothing parts them again. -/
def newerMarkedLetters : List (Nat × String × String) :=
  [(0x1B35, "ᬅᬇᬉᬋᬍᬑ\u1b3a\u1b3c\u1b3e\u1b3f\u1b42", "ᬆᬈᬊᬌᬎᬒ\u1b3b\u1b3d\u1b40\u1b41\u1b43"),
   (0x110BA, "𑂙𑂛𑂥", "𑂚𑂜𑂫"), (0x11127, "𑄱𑄲", "𑄮𑄯"), (0x1133E, "𑍇", "𑍋"), (0x11357, "𑍇", "𑍌"),
   (0x114B0, "𑒹", "𑒼"), (0x114BA, "𑒹", "𑒻"), (0x114BD, "𑒹", "𑒾"), (0x115AF, "𑖸𑖹", "𑖺𑖻"),
   (0x11930, "𑤵", "𑤸")]

def joinSyllable? (a b : Nat) : Option Char :=
  if 0x1100 ≤ a ∧ a < 0x1113 ∧ 0x1161 ≤ b ∧ b < 0x1176 then
    some (Char.ofNat (0xAC00 + ((a - 0x1100) * 21 + (b - 0x1161)) * 28))
  else if 0xAC00 ≤ a ∧ a < 0xD7A4 ∧ (a - 0xAC00) % 28 = 0 ∧ 0x11A7 < b ∧ b < 0x11C3 then
    some (Char.ofNat (a + (b - 0x11A7)))
  else none

def partSyllable? (n : Nat) : Option (Char × Char) :=
  if n < 0xAC00 ∨ 0xD7A4 ≤ n then none
  else
    let tail := (n - 0xAC00) % 28
    let syllable := (n - 0xAC00) / 28
    if tail = 0 then
      some (Char.ofNat (0x1100 + syllable / 21), Char.ofNat (0x1161 + syllable % 21))
    else some (Char.ofNat (n - tail), Char.ofNat (0x11A7 + tail))

def join? (a b : Char) : Option Char :=
  joinSyllable? a.toNat b.toNat <|>
    (markedLetters ++ newerMarkedLetters).findSome? fun (mark, letters, wholes) ↦
      if b.toNat = mark then ((letters.toList.zip wholes.toList).lookup a) else none

def part? (c : Char) : Option (Char × Char) :=
  partSyllable? c.toNat <|>
    markedLetters.findSome? fun (mark, letters, wholes) ↦
      ((wholes.toList.zip letters.toList).lookup c).map ((·, Char.ofNat mark))

def expand (c : Char) : Text :=
  match part? c with
  | none => [c]
  | some (a, b) =>
    match part? a with
    | none => [a, b]
    | some (a, d) => [a, d, b]

def place (c : Char) : Text → Text
  | [] => [c]
  | d :: t => if 0 < markClass d ∧ markClass d < markClass c then d :: place c t else c :: d :: t

def arrange (t : Text) : Text := t.foldr place []

structure Cluster where
  letter : Char
  marks : Text

def Cluster.toText (l : Cluster) : Text := l.letter :: l.marks

/-- A letter takes a mark past marks of lower classes only, and anything else only from the place
next to it. -/
def Cluster.take? (l : Cluster) (c : Char) : Option Cluster :=
  if l.marks.getLast?.all (markClass · < markClass c) then
    (join? l.letter c).map fun whole ↦ { l with letter := whole }
  else none

def Cluster.compose (l : Cluster) : Text → Text
  | [] => l.toText
  | c :: t =>
    match l.take? c with
    | some l => l.compose t
    | none =>
      if markClass c = 0 then l.toText ++ Cluster.compose ⟨c, []⟩ t
      else Cluster.compose { l with marks := l.marks ++ [c] } t

def normalize (t : Text) : Text :=
  match arrange (t.flatMap expand) with
  | [] => []
  | c :: t => Cluster.compose ⟨c, []⟩ t

end OnlineAssembler.Web.Label
