import Subscription.Text.CombiningClass

/-!
# Composed characters

The same text can be written with composed characters, or with each followed by its marks.
`Composition.normal` brings it into the one form in which all is composed that can be: every
character is taken apart, marks are put in the order of their combining classes, and then each
character is joined with the marks behind it. It is the normalization form C of Unicode for texts in
which no character stands for one other character.
-/

namespace Subscription

namespace Composition

/-- The composed characters: the second part of each, all first parts that go with it, and what each
of them becomes. The syllables of Hangul are composed by a rule of their own. -/
def rows : List (Nat × String × String) :=
  [(0x0300, "AEINOUWYaeinouwy¨ÂÊÔÜâêôüĂăĒēŌōƠơƯưΑΕΗΙ", "ÀÈÌǸÒÙẀỲàèìǹòùẁỳ῭ẦỀỒǛầềồǜẰằḔḕṐṑỜờỪừᾺῈῊῚ"),
   (0x0300, "ΟΥΩαεηιουωϊϋЕИеиἀἁἈἉἐἑἘἙἠἡἨἩἰἱἸἹὀὁὈὉὐὑὙ", "ῸῪῺὰὲὴὶὸὺὼῒῢЀЍѐѝἂἃἊἋἒἓἚἛἢἣἪἫἲἳἺἻὂὃὊὋὒὓὛ"),
   (0x0300, "ὠὡὨὩ᾿῾", "ὢὣὪὫ῍῝"),
   (0x0301, "ACEGIKLMNOPRSUWYZacegiklmnoprsuwyz¨ÂÅÆÇ", "ÁĆÉǴÍḰĹḾŃÓṔŔŚÚẂÝŹáćéǵíḱĺḿńóṕŕśúẃýź΅ẤǺǼḈ"),
   (0x0301, "ÊÏÔÕØÜâåæçêïôõøüĂăĒēŌōŨũƠơƯưΑΕΗΙΟΥΩαεηι", "ẾḮỐṌǾǗấǻǽḉếḯốṍǿǘẮắḖḗṒṓṸṹỚớỨứΆΈΉΊΌΎΏάέήί"),
   (0x0301, "ουωϊϋϒГКгкἀἁἈἉἐἑἘἙἠἡἨἩἰἱἸἹὀὁὈὉὐὑὙὠὡὨὩ᾿῾", "όύώΐΰϓЃЌѓќἄἅἌἍἔἕἜἝἤἥἬἭἴἵἼἽὄὅὌὍὔὕὝὤὥὬὭ῎῞"),
   (0x0302, "ACEGHIJOSUWYZaceghijosuwyzẠạẸẹỌọ", "ÂĈÊĜĤÎĴÔŜÛŴŶẐâĉêĝĥîĵôŝûŵŷẑẬậỆệỘộ"),
   (0x0303, "AEINOUVYaeinouvyÂÊÔâêôĂăƠơƯư", "ÃẼĨÑÕŨṼỸãẽĩñõũṽỹẪỄỖẫễỗẴẵỠỡỮữ"),
   (0x0304, "AEGIOUYaegiouyÄÆÕÖÜäæõöüǪǫȦȧȮȯΑΙΥαιυИУи", "ĀĒḠĪŌŪȲāēḡīōūȳǞǢȬȪǕǟǣȭȫǖǬǭǠǡȰȱᾹῙῩᾱῑῡӢӮӣ"),
   (0x0304, "уḶḷṚṛ", "ӯḸḹṜṝ"),
   (0x0306, "AEGIOUaegiouȨȩΑΙΥαιυАЕЖИУаежиуẠạ", "ĂĔĞĬŎŬăĕğĭŏŭḜḝᾸῘῨᾰῐῠӐӖӁЙЎӑӗӂйўẶặ"),
   (0x0307, "ABCDEFGHIMNOPRSTWXYZabcdefghmnoprstwxyz", "ȦḂĊḊĖḞĠḢİṀṄȮṖṘṠṪẆẊẎŻȧḃċḋėḟġḣṁṅȯṗṙṡṫẇẋẏż"),
   (0x0307, "ŚśŠšſṢṣ𐗒𐗚", "ṤṥṦṧẛṨṩ𐗉𐗤"),
   (0x0308, "AEHIOUWXYaehiotuwxyÕõŪūΙΥιυϒІАЕЖЗИОУЧЫЭ", "ÄËḦÏÖÜẄẌŸäëḧïöẗüẅẍÿṎṏṺṻΪΫϊϋϔЇӒЁӜӞӤӦӰӴӸӬ"),
   (0x0308, "аежзиоучыэіӘәӨө", "ӓёӝӟӥӧӱӵӹӭїӚӛӪӫ"),
   (0x0309, "AEIOUYaeiouyÂÊÔâêôĂăƠơƯư", "ẢẺỈỎỦỶảẻỉỏủỷẨỂỔẩểổẲẳỞởỬử"), (0x030A, "AUauwy", "ÅŮåůẘẙ"),
   (0x030B, "OUouУу", "ŐŰőűӲӳ"),
   (0x030C, "ACDEGHIKLNORSTUZacdeghijklnorstuzÜüƷʒ", "ǍČĎĚǦȞǏǨĽŇǑŘŠŤǓŽǎčďěǧȟǐǰǩľňǒřšťǔžǙǚǮǯ"),
   (0x030F, "AEIORUaeioruѴѵ", "ȀȄȈȌȐȔȁȅȉȍȑȕѶѷ"), (0x0311, "AEIORUaeioru", "ȂȆȊȎȒȖȃȇȋȏȓȗ"),
   (0x0313, "ΑΕΗΙΟΩαεηιορυω", "ἈἘἨἸὈὨἀἐἠἰὀῤὐὠ"), (0x0314, "ΑΕΗΙΟΡΥΩαεηιορυω", "ἉἙἩἹὉῬὙὩἁἑἡἱὁῥὑὡ"),
   (0x031B, "OUou", "ƠƯơư"),
   (0x0323, "ABDEHIKLMNORSTUVWYZabdehiklmnorstuvwyzƠ", "ẠḄḌẸḤỊḲḶṂṆỌṚṢṬỤṾẈỴẒạḅḍẹḥịḳḷṃṇọṛṣṭụṿẉỵẓỢ"),
   (0x0323, "ơƯư", "ợỰự"), (0x0324, "Uu", "Ṳṳ"), (0x0325, "Aa", "Ḁḁ"), (0x0326, "STst", "ȘȚșț"),
   (0x0327, "CDEGHKLNRSTcdeghklnrst", "ÇḐȨĢḨĶĻŅŖŞŢçḑȩģḩķļņŗşţ"),
   (0x0328, "AEIOUaeiou", "ĄĘĮǪŲąęįǫų"), (0x032D, "DELNTUdelntu", "ḒḘḼṊṰṶḓḙḽṋṱṷ"),
   (0x032E, "Hh", "Ḫḫ"), (0x0330, "EIUeiu", "ḚḬṴḛḭṵ"),
   (0x0331, "BDKLNRTZbdhklnrtz", "ḆḎḴḺṈṞṮẔḇḏẖḵḻṉṟṯẕ"),
   (0x0338, "<=>←→↔⇐⇒⇔∃∈∋∣∥∼≃≅≈≍≡≤≥≲≳≶≷≺≻≼≽⊂⊃⊆⊇⊑⊒⊢⊨⊩", "≮≠≯↚↛↮⇍⇏⇎∄∉∌∤∦≁≄≇≉≭≢≰≱≴≵≸≹⊀⊁⋠⋡⊄⊅⊈⊉⋢⋣⊬⊭⊮"),
   (0x0338, "⊫⊲⊳⊴⊵", "⊯⋪⋫⋬⋭"),
   (0x0342, "¨αηιυωϊϋἀἁἈἉἠἡἨἩἰἱἸἹὐὑὙὠὡὨὩ᾿῾", "῁ᾶῆῖῦῶῗῧἆἇἎἏἦἧἮἯἶἷἾἿὖὗὟὦὧὮὯ῏῟"),
   (0x0345, "ΑΗΩάήαηωώἀἁἂἃἄἅἆἇἈἉἊἋἌἍἎἏἠἡἢἣἤἥἦἧἨἩἪἫἬἭ", "ᾼῌῼᾴῄᾳῃῳῴᾀᾁᾂᾃᾄᾅᾆᾇᾈᾉᾊᾋᾌᾍᾎᾏᾐᾑᾒᾓᾔᾕᾖᾗᾘᾙᾚᾛᾜᾝ"),
   (0x0345, "ἮἯὠὡὢὣὤὥὦὧὨὩὪὫὬὭὮὯὰὴὼᾶῆῶ", "ᾞᾟᾠᾡᾢᾣᾤᾥᾦᾧᾨᾩᾪᾫᾬᾭᾮᾯᾲῂῲᾷῇῷ"), (0x0653, "ا", "آ"),
   (0x0654, "اويہےە", "أؤئۂۓۀ"), (0x0655, "ا", "إ"), (0x093C, "नरळ", "ऩऱऴ"),
   (0x09BE, "\u09C7", "\u09CB"), (0x09D7, "\u09C7", "\u09CC"), (0x0B3E, "\u0B47", "\u0B4B"),
   (0x0B56, "\u0B47", "\u0B48"), (0x0B57, "\u0B47", "\u0B4C"),
   (0x0BBE, "\u0BC6\u0BC7", "\u0BCA\u0BCB"), (0x0BD7, "ஒ\u0BC6", "ஔ\u0BCC"),
   (0x0C56, "\u0C46", "\u0C48"), (0x0CC2, "\u0CC6", "\u0CCA"),
   (0x0CD5, "\u0CBF\u0CC6\u0CCA", "\u0CC0\u0CC7\u0CCB"), (0x0CD6, "\u0CC6", "\u0CC8"),
   (0x0D3E, "\u0D46\u0D47", "\u0D4A\u0D4B"), (0x0D57, "\u0D46", "\u0D4C"),
   (0x0DCA, "\u0DD9\u0DDC", "\u0DDA\u0DDD"), (0x0DCF, "\u0DD9", "\u0DDC"),
   (0x0DDF, "\u0DD9", "\u0DDE"), (0x102E, "ဥ", "ဦ"),
   (0x1B35, "ᬅᬇᬉᬋᬍᬑ\u1B3A\u1B3C\u1B3E\u1B3F\u1B42", "ᬆᬈᬊᬌᬎᬒ\u1B3B\u1B3D\u1B40\u1B41\u1B43"),
   (0x3099, "うかきくけこさしすせそたちつてとはひふへほゝウカキクケコサシスセソタチツテトハ", "ゔがぎぐげござじずぜぞだぢづでどばびぶべぼゞヴガギグゲゴザジズゼゾダヂヅデドバ"),
   (0x3099, "ヒフヘホワヰヱヲヽ", "ビブベボヷヸヹヺヾ"), (0x309A, "はひふへほハヒフヘホ", "ぱぴぷぺぽパピプペポ"),
   (0x110BA, "𑂙𑂛𑂥", "𑂚𑂜𑂫"), (0x11127, "𑄱𑄲", "𑄮𑄯"), (0x1133E, "𑍇", "𑍋"), (0x11357, "𑍇", "𑍌"),
   (0x113B8, "𑏂", "𑏇"), (0x113BB, "𑎄", "𑎅"), (0x113C2, "𑎎", "𑎎𑏅"), (0x113C9, "𑎂𑎐𑏂", "𑎃𑎑𑏈"),
   (0x114B0, "𑒹", "𑒼"), (0x114BA, "𑒹", "𑒻"), (0x114BD, "𑒹", "𑒾"), (0x115AF, "𑖸𑖹", "𑖺𑖻"),
   (0x11930, "𑤵", "𑤸"), (0x1611E, "𖄞", "𖄡"), (0x1611F, "𖄡𖄡𖄩𖄩", "𖄣𖄦𖄧𖄤"), (0x16120, "𖄡𖄞", "𖄥𖄨"),
   (0x16129, "𖄞", "𖄢"), (0x16D67, "𖵩𖵩", "𖵪𖵧𖵪")]

/-! ### Syllables of Hangul -/

/-- The first syllable. -/
def firstSyllable : Nat := 0xAC00

/-- The number of syllables. -/
def syllables : Nat := 11172

/-- The syllable of a leading consonant and a vowel, or of an open syllable and a final
consonant. -/
def syllable? (first second : Nat) : Option Nat :=
  if 0x1100 ≤ first && first ≤ 0x1112 && 0x1161 ≤ second && second ≤ 0x1175 then
    some (firstSyllable + ((first - 0x1100) * 21 + (second - 0x1161)) * 28)
  else if firstSyllable ≤ first && first < firstSyllable + syllables
      && (first - firstSyllable) % 28 = 0 && 0x11A8 ≤ second && second ≤ 0x11C2 then
    some (first + (second - 0x11A7))
  else none

/-- The letters of a syllable. -/
def letters (code : Nat) : List Char :=
  let place := code - firstSyllable
  let openSyllable :=
    [Char.ofNat (0x1100 + place / 588), Char.ofNat (0x1161 + place % 588 / 28)]
  if place % 28 = 0 then openSyllable
  else openSyllable ++ [Char.ofNat (0x11A7 + place % 28)]

/-! ### Taking apart and joining -/

/-- The composed character of two characters. -/
def joined? (first second : Char) : Option Char :=
  match syllable? first.toNat second.toNat with
  | some code => some (Char.ofNat code)
  | none =>
    rows.findSome? fun (code, firsts, composed) =>
      if code = second.toNat then (firsts.toList.zip composed.toList).lookup first else none

/-- The two parts of a composed character. -/
def parts? (c : Char) : Option (Char × Char) :=
  rows.findSome? fun (code, firsts, composed) =>
    ((composed.toList.zip firsts.toList).lookup c).map fun first => (first, Char.ofNat code)

/-- How often the first part of a character can be taken apart. -/
def deepest : Nat := 4

/-- The characters that a character is made of, taken apart at most so often. -/
def apart : Nat → Char → List Char
  | 0, c => [c]
  | depth + 1, c =>
    if firstSyllable ≤ c.toNat && c.toNat < firstSyllable + syllables then letters c.toNat
    else
      match parts? c with
      | some (first, second) => apart depth first ++ [second]
      | none => [c]

/-- Puts a mark in front of marks in the order of their classes. It stays in front of those of its
own class. -/
def insertMark (mark : Char) : List Char → List Char
  | [] => [mark]
  | c :: rest =>
    if CombiningClass.of c ≠ 0 && CombiningClass.of c < CombiningClass.of mark then
      c :: insertMark mark rest
    else mark :: c :: rest

/-- Puts marks in the order of their classes. -/
def ordered : List Char → List Char
  | [] => []
  | c :: rest =>
    if CombiningClass.of c = 0 then c :: ordered rest else insertMark c (ordered rest)

/-- Joins a character with what follows it, up to the next one that stays apart. The marks passed so
far are given in reverse: they keep away those of their own class or a lower one. -/
def join (base : Char) (passed : List Char) : List Char → List Char
  | [] => base :: passed.reverse
  | c :: rest =>
    let isNear := passed.head?.all fun mark => CombiningClass.of mark < CombiningClass.of c
    match if isNear then joined? base c else none with
    | some composed => join composed passed rest
    | none =>
      if CombiningClass.of c = 0 then base :: (passed.reverse ++ join c [] rest)
      else join base (c :: passed) rest

/-- Joins all characters, those in front of the first base apart. -/
def joinAll : List Char → List Char
  | [] => []
  | c :: rest => if CombiningClass.of c = 0 then join c [] rest else c :: joinAll rest

/-- The form of a text in which all is composed that can be. -/
def normal (chars : List Char) : List Char := joinAll (ordered (chars.flatMap (apart deepest)))

end Composition

end Subscription
