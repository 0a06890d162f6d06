/-
**Compositions.**

Some characters stand for a base and a mark after it. Unicode lists such pairs, and builds the
syllables of Hangul from their letters by counting. A pair that Unicode keeps apart is not listed.
-/

namespace Seeding.Text

/-- The compositions of the basic plane: a mark, and each base with what it becomes. -/
def compositionGroups : List (Char × String) :=
  [('\u0300', "AÀEÈIÌNǸOÒUÙWẀYỲaàeèiìnǹoòuùwẁyỳ¨῭ÂẦÊỀÔỒÜǛâầêềôồüǜĂẰăằĒḔēḕŌṐōṑƠỜơờƯỪưừΑᾺΕῈΗῊΙῚΟῸ"),
    ('\u0300', "ΥῪΩῺαὰεὲηὴιὶοὸυὺωὼϊῒϋῢЕЀИЍеѐиѝἀἂἁἃἈἊἉἋἐἒἑἓἘἚἙἛἠἢἡἣἨἪἩἫἰἲἱἳἸἺἹἻὀὂὁὃὈὊὉὋὐὒὑὓὙὛὠὢὡὣ"),
    ('\u0300', "ὨὪὩὫ᾿῍῾῝"),
    ('\u0301', "AÁCĆEÉGǴIÍKḰLĹMḾNŃOÓPṔRŔSŚUÚWẂYÝZŹaácćeégǵiíkḱlĺmḿnńoópṕrŕsśuúwẃyýzź¨΅ÂẤÅǺÆǼÇḈÊẾ"),
    ('\u0301', "ÏḮÔỐÕṌØǾÜǗâấåǻæǽçḉêếïḯôốõṍøǿüǘĂẮăắĒḖēḗŌṒōṓŨṸũṹƠỚơớƯỨưứΑΆΕΈΗΉΙΊΟΌΥΎΩΏαάεέηήιίοόυύ"),
    ('\u0301', "ωώϊΐϋΰϒϓГЃКЌгѓкќἀἄἁἅἈἌἉἍἐἔἑἕἘἜἙἝἠἤἡἥἨἬἩἭἰἴἱἵἸἼἹἽὀὄὁὅὈὌὉὍὐὔὑὕὙὝὠὤὡὥὨὬὩὭ᾿῎῾῞"),
    ('\u0302', "AÂCĈEÊGĜHĤIÎJĴOÔSŜUÛWŴYŶZẐaâcĉeêgĝhĥiîjĵoôsŝuûwŵyŷzẑẠẬạậẸỆẹệỌỘọộ"),
    ('\u0303', "AÃEẼIĨNÑOÕUŨVṼYỸaãeẽiĩnñoõuũvṽyỹÂẪÊỄÔỖâẫêễôỗĂẴăẵƠỠơỡƯỮưữ"),
    ('\u0304', "AĀEĒGḠIĪOŌUŪYȲaāeēgḡiīoōuūyȳÄǞÆǢÕȬÖȪÜǕäǟæǣõȭöȫüǖǪǬǫǭȦǠȧǡȮȰȯȱΑᾹΙῙΥῩαᾱιῑυῡИӢУӮиӣуӯ"),
    ('\u0304', "ḶḸḷḹṚṜṛṝ"),
    ('\u0306', "AĂEĔGĞIĬOŎUŬaăeĕgğiĭoŏuŭȨḜȩḝΑᾸΙῘΥῨαᾰιῐυῠАӐЕӖЖӁИЙУЎаӑеӗжӂийуўẠẶạặ"),
    ('\u0307', "AȦBḂCĊDḊEĖFḞGĠHḢIİMṀNṄOȮPṖRṘSṠTṪWẆXẊYẎZŻaȧbḃcċdḋeėfḟgġhḣmṁnṅoȯpṗrṙsṡtṫwẇxẋyẏzżŚṤ"),
    ('\u0307', "śṥŠṦšṧſẛṢṨṣṩ"),
    ('\u0308', "AÄEËHḦIÏOÖUÜWẄXẌYŸaäeëhḧiïoötẗuüwẅxẍyÿÕṎõṏŪṺūṻΙΪΥΫιϊυϋϒϔІЇАӒЕЁЖӜЗӞИӤОӦУӰЧӴЫӸЭӬаӓ"),
    ('\u0308', "еёжӝзӟиӥоӧуӱчӵыӹэӭіїӘӚәӛӨӪөӫ"),
    ('\u0309', "AẢEẺIỈOỎUỦYỶaảeẻiỉoỏuủyỷÂẨÊỂÔỔâẩêểôổĂẲăẳƠỞơởƯỬưử"),
    ('\u030A', "AÅUŮaåuůwẘyẙ"),
    ('\u030B', "OŐUŰoőuűУӲуӳ"),
    ('\u030C', "AǍCČDĎEĚGǦHȞIǏKǨLĽNŇOǑRŘSŠTŤUǓZŽaǎcčdďeěgǧhȟiǐjǰkǩlľnňoǒrřsštťuǔzžÜǙüǚƷǮʒǯ"),
    ('\u030F', "AȀEȄIȈOȌRȐUȔaȁeȅiȉoȍrȑuȕѴѶѵѷ"),
    ('\u0311', "AȂEȆIȊOȎRȒUȖaȃeȇiȋoȏrȓuȗ"),
    ('\u0313', "ΑἈΕἘΗἨΙἸΟὈΩὨαἀεἐηἠιἰοὀρῤυὐωὠ"),
    ('\u0314', "ΑἉΕἙΗἩΙἹΟὉΡῬΥὙΩὩαἁεἑηἡιἱοὁρῥυὑωὡ"),
    ('\u031B', "OƠUƯoơuư"),
    ('\u0323', "AẠBḄDḌEẸHḤIỊKḲLḶMṂNṆOỌRṚSṢTṬUỤVṾWẈYỴZẒaạbḅdḍeẹhḥiịkḳlḷmṃnṇoọrṛsṣtṭuụvṿwẉyỵzẓƠỢơợ"),
    ('\u0323', "ƯỰưự"),
    ('\u0324', "UṲuṳ"),
    ('\u0325', "AḀaḁ"),
    ('\u0326', "SȘTȚsștț"),
    ('\u0327', "CÇDḐEȨGĢHḨKĶLĻNŅRŖSŞTŢcçdḑeȩgģhḩkķlļnņrŗsştţ"),
    ('\u0328', "AĄEĘIĮOǪUŲaąeęiįoǫuų"),
    ('\u032D', "DḒEḘLḼNṊTṰUṶdḓeḙlḽnṋtṱuṷ"),
    ('\u032E', "HḪhḫ"),
    ('\u0330', "EḚIḬUṴeḛiḭuṵ"),
    ('\u0331', "BḆDḎKḴLḺNṈRṞTṮZẔbḇdḏhẖkḵlḻnṉrṟtṯzẕ"),
    ('\u0338', "<≮=≠>≯←↚→↛↔↮⇐⇍⇒⇏⇔⇎∃∄∈∉∋∌∣∤∥∦∼≁≃≄≅≇≈≉≍≭≡≢≤≰≥≱≲≴≳≵≶≸≷≹≺⊀≻⊁≼⋠≽⋡⊂⊄⊃⊅⊆⊈⊇⊉⊑⋢⊒⋣⊢⊬⊨⊭⊩⊮⊫⊯"),
    ('\u0338', "⊲⋪⊳⋫⊴⋬⊵⋭"),
    ('\u0342', "¨῁αᾶηῆιῖυῦωῶϊῗϋῧἀἆἁἇἈἎἉἏἠἦἡἧἨἮἩἯἰἶἱἷἸἾἹἿὐὖὑὗὙὟὠὦὡὧὨὮὩὯ᾿῏῾῟"),
    ('\u0345', "ΑᾼΗῌΩῼάᾴήῄαᾳηῃωῳώῴἀᾀἁᾁἂᾂἃᾃἄᾄἅᾅἆᾆἇᾇἈᾈἉᾉἊᾊἋᾋἌᾌἍᾍἎᾎἏᾏἠᾐἡᾑἢᾒἣᾓἤᾔἥᾕἦᾖἧᾗἨᾘἩᾙἪᾚἫᾛἬᾜἭᾝἮᾞ"),
    ('\u0345', "ἯᾟὠᾠὡᾡὢᾢὣᾣὤᾤὥᾥὦᾦὧᾧὨᾨὩᾩὪᾪὫᾫὬᾬὭᾭὮᾮὯᾯὰᾲὴῂὼῲᾶᾷῆῇῶῷ"),
    ('\u0653', "\u0627\u0622"),
    ('\u0654', "\u0627\u0623\u0648\u0624\u064A\u0626\u06C1\u06C2\u06D2\u06D3\u06D5\u06C0"),
    ('\u0655', "\u0627\u0625"),
    ('\u093C', "नऩरऱळऴ"),
    ('\u09BE', "\u09C7\u09CB"),
    ('\u09D7', "\u09C7\u09CC"),
    ('\u0B3E', "\u0B47\u0B4B"),
    ('\u0B56', "\u0B47\u0B48"),
    ('\u0B57', "\u0B47\u0B4C"),
    ('\u0BBE', "\u0BC6\u0BCA\u0BC7\u0BCB"),
    ('\u0BD7', "ஒஔ\u0BC6\u0BCC"),
    ('\u0C56', "\u0C46\u0C48"),
    ('\u0CC2', "\u0CC6\u0CCA"),
    ('\u0CD5', "\u0CBF\u0CC0\u0CC6\u0CC7\u0CCA\u0CCB"),
    ('\u0CD6', "\u0CC6\u0CC8"),
    ('\u0D3E', "\u0D46\u0D4A\u0D47\u0D4B"),
    ('\u0D57', "\u0D46\u0D4C"),
    ('\u0DCA', "\u0DD9\u0DDA\u0DDC\u0DDD"),
    ('\u0DCF', "\u0DD9\u0DDC"),
    ('\u0DDF', "\u0DD9\u0DDE"),
    ('\u102E', "ဥဦ"),
    ('\u1B35', "ᬅᬆᬇᬈᬉᬊᬋᬌᬍᬎᬑᬒ\u1B3A\u1B3B\u1B3C\u1B3D\u1B3E\u1B40\u1B3F\u1B41\u1B42\u1B43"),
    ('\u3099', "うゔかがきぎくぐけげこごさざしじすずせぜそぞただちぢつづてでとどはばひびふぶへべほぼゝゞウヴカガキギクグケゲコゴサザシジスズセゼソゾタダチヂツヅテデトドハバヒビ"),
    ('\u3099', "フブヘベホボワヷヰヸヱヹヲヺヽヾ"),
    ('\u309A', "はぱひぴふぷへぺほぽハパヒピフプヘペホポ")]

/-- The compositions beyond the basic plane: a base, a mark and what they become. -/
def farCompositions : List (Nat × Nat × Nat) :=
  [(0x105D2, 0x307, 0x105C9), (0x105DA, 0x307, 0x105E4), (0x11099, 0x110BA, 0x1109A),
    (0x1109B, 0x110BA, 0x1109C), (0x110A5, 0x110BA, 0x110AB), (0x11131, 0x11127, 0x1112E),
    (0x11132, 0x11127, 0x1112F), (0x11347, 0x1133E, 0x1134B), (0x11347, 0x11357, 0x1134C),
    (0x113C2, 0x113B8, 0x113C7), (0x11384, 0x113BB, 0x11385), (0x1138B, 0x113C2, 0x1138E),
    (0x113C2, 0x113C2, 0x113C5), (0x11382, 0x113C9, 0x11383), (0x11390, 0x113C9, 0x11391),
    (0x113C2, 0x113C9, 0x113C8), (0x114B9, 0x114B0, 0x114BC), (0x114B9, 0x114BA, 0x114BB),
    (0x114B9, 0x114BD, 0x114BE), (0x115B8, 0x115AF, 0x115BA), (0x115B9, 0x115AF, 0x115BB),
    (0x11935, 0x11930, 0x11938), (0x1611E, 0x1611E, 0x16121), (0x1611E, 0x1611F, 0x16123),
    (0x16121, 0x1611F, 0x16126), (0x16122, 0x1611F, 0x16127), (0x16129, 0x1611F, 0x16124),
    (0x1611E, 0x16120, 0x16125), (0x16121, 0x16120, 0x16128), (0x1611E, 0x16129, 0x16122),
    (0x16D63, 0x16D67, 0x16D69), (0x16D67, 0x16D67, 0x16D68), (0x16D69, 0x16D67, 0x16D6A)]

/-- The characters of a text two by two. -/
def inPairs : List Char → List (Char × Char)
  | first :: second :: rest => (first, second) :: inPairs rest
  | [_] => []
  | [] => []

/-- All listed compositions: a base, a mark and what they become. -/
def compositions : List (Char × Char × Char) :=
  (compositionGroups.flatMap fun group =>
    (inPairs group.2.toList).map fun pair => (pair.1, group.1, pair.2)) ++
  farCompositions.map fun entry =>
    (Char.ofNat entry.1, Char.ofNat entry.2.1, Char.ofNat entry.2.2)

/-! ### Hangul -/

/-- The syllable of two letters, or of a syllable of two letters and a third one: 19 initial
letters, 21 vowels and 27 final letters are counted through, with a place for no final letter. -/
def syllable? (first second : Char) : Option Char :=
  let (base, next) := (first.toNat, second.toNat)
  if 0x1100 ≤ base ∧ base ≤ 0x1112 ∧ 0x1161 ≤ next ∧ next ≤ 0x1175 then
    some (Char.ofNat (0xAC00 + ((base - 0x1100) * 21 + (next - 0x1161)) * 28))
  else if 0xAC00 ≤ base ∧ base ≤ 0xD7A3 ∧ (base - 0xAC00) % 28 = 0 ∧
      0x11A8 ≤ next ∧ next ≤ 0x11C2 then
    some (Char.ofNat (base + (next - 0x11A7)))
  else none

/-- The two parts of a syllable. -/
def syllableParts? (character : Char) : Option (Char × Char) :=
  let number := character.toNat - 0xAC00
  if character.toNat < 0xAC00 ∨ 0xD7A3 < character.toNat then none
  else if number % 28 = 0 then
    some (Char.ofNat (0x1100 + number / 588), Char.ofNat (0x1161 + number % 588 / 28))
  else some (Char.ofNat (character.toNat - number % 28), Char.ofNat (0x11A7 + number % 28))

/-! ### Pairs -/

/-- What a base and the character after it become, if they become one character. -/
def composed? (base next : Char) : Option Char :=
  (syllable? base next).or
    ((compositions.find? fun entry => entry.1 = base && entry.2.1 = next).map fun entry =>
      entry.2.2)

/-- The pair that a character stands for. -/
def composedOf? (character : Char) : Option (Char × Char) :=
  (syllableParts? character).or
    ((compositions.find? fun entry => entry.2.2 = character).map fun entry =>
      (entry.1, entry.2.1))

end Seeding.Text
