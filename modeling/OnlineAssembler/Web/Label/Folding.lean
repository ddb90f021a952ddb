import OnlineAssembler.Text.Basic

namespace OnlineAssembler.Web.Label

def ignoredBounds : List Nat :=
  [0xAD, 0xAE, 0x34F, 0x350, 0x1806, 0x1807, 0x180B, 0x180E, 0x200B, 0x200E, 0x2060, 0x2061,
   0xFE00, 0xFE10, 0xFEFF, 0xFF00]

def forbiddenBounds : List Nat :=
  [0x80, 0xA0, 0x6DD, 0x6DE, 0x70F, 0x710, 0x1680, 0x1681, 0x180E, 0x180F, 0x200E, 0x2010, 0x2028,
   0x202F, 0x2061, 0x2064, 0x206A, 0x2070, 0x2FF0, 0x2FFC, 0xE000, 0xF900, 0xFDD0, 0xFDF0, 0xFFF9,
   0x10000, 0x1D173, 0x1D17B, 0x1FFFE, 0x20000, 0x2FFFE, 0x30000, 0x3FFFE, 0x40000, 0x4FFFE,
   0x50000, 0x5FFFE, 0x60000, 0x6FFFE, 0x70000, 0x7FFFE, 0x80000, 0x8FFFE, 0x90000, 0x9FFFE,
   0xA0000, 0xAFFFE, 0xB0000, 0xBFFFE, 0xC0000, 0xCFFFE, 0xD0000, 0xDFFFE, 0xE0000, 0xE0001,
   0xE0002, 0xE0020, 0xE0080, 0xEFFFE, 0x110000]

def spaceBounds : List Nat :=
  [0xA0, 0xA1, 0x2000, 0x200B, 0x202F, 0x2030, 0x205F, 0x2060, 0x3000, 0x3001]

/-- A stretch of characters by its first and last code point and the step between them, and the
character that is meant by the first; the others mean those that follow it. This is the
compatibility form of Unicode 3.2 in lower case, and so are the two tables below. -/
def foldedStretches : List (Nat × Nat × Nat × Char) :=
  [(0xC0, 0xD6, 1, 'à'), (0xD8, 0xDE, 1, 'ø'), (0x100, 0x12E, 2, 'ā'), (0x14A, 0x176, 2, 'ŋ'),
   (0x1CD, 0x1DB, 2, 'ǎ'), (0x1DE, 0x1EE, 2, 'ǟ'), (0x1F8, 0x21E, 2, 'ǹ'), (0x222, 0x232, 2, 'ȣ'),
   (0x391, 0x3A1, 1, 'α'), (0x3A3, 0x3AB, 1, 'σ'), (0x3D8, 0x3EE, 2, 'ϙ'), (0x400, 0x40F, 1, 'ѐ'),
   (0x410, 0x42F, 1, 'а'), (0x460, 0x480, 2, 'ѡ'), (0x48A, 0x4BE, 2, 'ҋ'), (0x4C1, 0x4CD, 2, 'ӂ'),
   (0x4D0, 0x52E, 2, 'ӑ'), (0x531, 0x556, 1, 'ա'), (0x10A0, 0x10C5, 1, 'ⴀ'),
   (0x13A0, 0x13EF, 1, 'ꭰ'), (0x13F0, 0x13F5, 1, 'ᏸ'), (0x1C90, 0x1CBA, 1, 'ა'),
   (0x1E00, 0x1E94, 2, 'ḁ'), (0x1EA0, 0x1EFE, 2, 'ạ'), (0x1F08, 0x1F0F, 1, 'ἀ'),
   (0x1F18, 0x1F1D, 1, 'ἐ'), (0x1F28, 0x1F2F, 1, 'ἠ'), (0x1F38, 0x1F3F, 1, 'ἰ'),
   (0x1F48, 0x1F4D, 1, 'ὀ'), (0x1F68, 0x1F6F, 1, 'ὠ'), (0x2074, 0x2079, 1, '4'),
   (0x2080, 0x2089, 1, '0'), (0x2460, 0x2468, 1, '1'), (0x24B6, 0x24CF, 1, 'a'),
   (0x24D0, 0x24E9, 1, 'a'), (0x2C00, 0x2C2F, 1, 'ⰰ'), (0x2C80, 0x2CE2, 2, 'ⲁ'),
   (0x313A, 0x313F, 1, 'ᆰ'), (0x3145, 0x314E, 1, 'ᄉ'), (0x314F, 0x3163, 1, 'ᅡ'),
   (0x32E4, 0x32E9, 1, 'ナ'), (0x32F5, 0x32FA, 1, 'ヨ'), (0xA640, 0xA66C, 2, 'ꙁ'),
   (0xA680, 0xA69A, 2, 'ꚁ'), (0xA722, 0xA72E, 2, 'ꜣ'), (0xA732, 0xA76E, 2, 'ꜳ'),
   (0xA796, 0xA7A8, 2, 'ꞗ'), (0xA7B4, 0xA7C2, 2, 'ꞵ'), (0xFF01, 0xFF20, 1, '!'),
   (0xFF21, 0xFF3A, 1, 'a'), (0xFF3B, 0xFF5E, 1, '['), (0xFF85, 0xFF8A, 1, 'ナ'),
   (0xFF96, 0xFF9B, 1, 'ヨ'), (0xFFAA, 0xFFAF, 1, 'ᆰ'), (0xFFB5, 0xFFBE, 1, 'ᄉ'),
   (0xFFC2, 0xFFC7, 1, 'ᅡ'), (0xFFCA, 0xFFCF, 1, 'ᅧ'), (0xFFD2, 0xFFD7, 1, 'ᅭ'),
   (0x10400, 0x10427, 1, '𐐨'), (0x104B0, 0x104D3, 1, '𐓘'), (0x10570, 0x1057A, 1, '𐖗'),
   (0x1057C, 0x1058A, 1, '𐖣'), (0x1058C, 0x10592, 1, '𐖳'), (0x10C80, 0x10CB2, 1, '𐳀'),
   (0x118A0, 0x118BF, 1, '𑣀'), (0x16E40, 0x16E5F, 1, '𖹠'), (0x1D400, 0x1D419, 1, 'a'),
   (0x1D41A, 0x1D433, 1, 'a'), (0x1D434, 0x1D44D, 1, 'a'), (0x1D44E, 0x1D454, 1, 'a'),
   (0x1D456, 0x1D467, 1, 'i'), (0x1D468, 0x1D481, 1, 'a'), (0x1D482, 0x1D49B, 1, 'a'),
   (0x1D4AE, 0x1D4B5, 1, 's'), (0x1D4C5, 0x1D4CF, 1, 'p'), (0x1D4D0, 0x1D4E9, 1, 'a'),
   (0x1D4EA, 0x1D503, 1, 'a'), (0x1D50D, 0x1D514, 1, 'j'), (0x1D516, 0x1D51C, 1, 's'),
   (0x1D51E, 0x1D537, 1, 'a'), (0x1D54A, 0x1D550, 1, 's'), (0x1D552, 0x1D56B, 1, 'a'),
   (0x1D56C, 0x1D585, 1, 'a'), (0x1D586, 0x1D59F, 1, 'a'), (0x1D5A0, 0x1D5B9, 1, 'a'),
   (0x1D5BA, 0x1D5D3, 1, 'a'), (0x1D5D4, 0x1D5ED, 1, 'a'), (0x1D5EE, 0x1D607, 1, 'a'),
   (0x1D608, 0x1D621, 1, 'a'), (0x1D622, 0x1D63B, 1, 'a'), (0x1D63C, 0x1D655, 1, 'a'),
   (0x1D656, 0x1D66F, 1, 'a'), (0x1D670, 0x1D689, 1, 'a'), (0x1D68A, 0x1D6A3, 1, 'a'),
   (0x1D6A8, 0x1D6B8, 1, 'α'), (0x1D6BA, 0x1D6C0, 1, 'σ'), (0x1D6C2, 0x1D6D2, 1, 'α'),
   (0x1D6D4, 0x1D6DA, 1, 'σ'), (0x1D6E2, 0x1D6F2, 1, 'α'), (0x1D6F4, 0x1D6FA, 1, 'σ'),
   (0x1D6FC, 0x1D70C, 1, 'α'), (0x1D70E, 0x1D714, 1, 'σ'), (0x1D71C, 0x1D72C, 1, 'α'),
   (0x1D72E, 0x1D734, 1, 'σ'), (0x1D736, 0x1D746, 1, 'α'), (0x1D748, 0x1D74E, 1, 'σ'),
   (0x1D756, 0x1D766, 1, 'α'), (0x1D768, 0x1D76E, 1, 'σ'), (0x1D770, 0x1D780, 1, 'α'),
   (0x1D782, 0x1D788, 1, 'σ'), (0x1D790, 0x1D7A0, 1, 'α'), (0x1D7A2, 0x1D7A8, 1, 'σ'),
   (0x1D7AA, 0x1D7BA, 1, 'α'), (0x1D7BC, 0x1D7C2, 1, 'σ'), (0x1D7CE, 0x1D7D7, 1, '0'),
   (0x1D7D8, 0x1D7E1, 1, '0'), (0x1D7E2, 0x1D7EB, 1, '0'), (0x1D7EC, 0x1D7F5, 1, '0'),
   (0x1D7F6, 0x1D7FF, 1, '0'), (0x1E900, 0x1E921, 1, '𞤢')]

/-- The first of code points in a row, and the characters that they mean. -/
def foldedChars : List (Nat × String) :=
  [(0x178, "ÿźźżżžžsƀɓƃƃƅƅɔƈƈɖɗƌƌƍǝəɛƒƒɠɣƕɩɨƙƙƚƛɯɲƞɵơơƣƣƥƥʀƨƨʃƪƫƭƭʈưưʊʋƴƴƶƶʒƹƹƺƻƽ"), (0x220, "ƞ"),
   (0x23A, "ⱥȼȼƚⱦȿɀɂɂƀʉʌɇɇɉɉɋɋɍɍɏ"), (0x2B0, "hɦjrɹɻʁwy"), (0x3C2, "σ"), (0x3CF, "ϗβθυύϋφπ"),
   (0x3F0, "κρσϳθε϶ϸϸσϻϻϼͻͼͽ"), (0x4C0, "ӏ"), (0xF0C, "་"), (0x10C7, "ⴧ"), (0x10CD, "ⴭ"),
   (0x1CBD, "ჽჾჿ"), (0x1F59, "ὑ\u1f5aὓ\u1f5cὕ\u1f5eὗ"), (0x1F71, "άὲέὴήὶίὸόὺύὼώ"),
   (0x1FD3, "ΐ\u1fd4\u1fd5ῖῗῐῑὶί"), (0x1FE3, "ΰῤῥῦῧῠῡὺύῥ"), (0x2011, "‐"), (0x2070, "0i"),
   (0x207A, "+−=()n"), (0x208A, "+−=()"), (0x210A, "ghhhhħiill℔n"),
   (0x2124, "z℥ω℧z℩kåbc℮eefⅎmoאבגדi℺℻ℼγγπ∑⅁⅂⅃⅄ddeij"), (0x2329, "〈〉"), (0x24EA, "0"),
   (0x2C60, "ⱡⱡɫᵽɽⱥⱦⱨⱨⱪⱪⱬⱬɑɱɐɒⱱⱳⱳⱴⱶ"), (0x2C7E, "ȿɀ"), (0x2CEB, "ⳬⳬⳮⳮ\u2cef\u2cf0\u2cf1ⳳ"),
   (0x2E9F, "母"), (0x2EF3, "龟"),
   (0x2F00, "一丨丶丿乙亅二亠人儿入八冂冖冫几凵刀力勹匕匚匸十卜卩厂厶又口囗土士夂夊夕大女子宀"),
   (0x2F28, "寸小尢尸屮山巛工己巾干幺广廴廾弋弓彐彡彳心戈戶手支攴文斗斤方无日曰月木欠止歹殳毋"),
   (0x2F50, "比毛氏气水火爪父爻爿片牙牛犬玄玉瓜瓦甘生用田疋疒癶白皮皿目矛矢石示禸禾穴立竹米糸"),
   (0x2F78, "缶网羊羽老而耒耳聿肉臣自至臼舌舛舟艮色艸虍虫血行衣襾見角言谷豆豕豸貝赤走足身車辛"),
   (0x2FA0, "辰辵邑酉釆里金長門阜隶隹雨靑非面革韋韭音頁風飛食首香馬骨高髟鬥鬯鬲鬼魚鳥鹵鹿麥麻"),
   (0x2FC8, "黃黍黑黹黽鼎鼓鼠鼻齊齒龍龜龠"), (0x3036, "〒〷十卄卅"), (0x3131, "ᄀᄁᆪᄂᆬᆭᄃᄄᄅ"),
   (0x3140, "ᄚᄆᄇᄈᄡ"),
   (0x3164, "ᅠᄔᄕᇇᇈᇌᇎᇓᇗᇙᄜᇝᇟᄝᄞᄠᄢᄣᄧᄩᄫᄬᄭᄮᄯᄲᄶᅀᅇᅌᇱᇲᅗᅘᅙᆄᆅᆈᆑᆒᆔᆞᆡ\u318f㆐㆑一二"),
   (0x3194, "三四上中下甲乙丙丁天地人"),
   (0x3260, "ᄀᄂᄃᄅᄆᄇᄉᄋᄌᄎᄏᄐᄑᄒ가나다라마바사아자차카타파하㉼㉽㉾㉿一二三四五六七八"),
   (0x3288, "九十月火水木金土日株有社名特財祝労秘男女適優印注項休写正上中下左右医宗学監企資協"),
   (0x32B0, "夜"), (0x32D0, "アイウエオカキクケコサシスセソタチツテト"),
   (0x32EA, "ヒフヘホマミムメモヤユ"), (0xA779, "ꝺꝺꝼꝼᵹꝿꝿꞁꞁꞃꞃꞅꞅꞇꞇꞈ꞉꞊ꞌꞌɥꞎꞏꞑꞑꞓ"),
   (0xA7AA, "ɦɜɡɬɪꞯʞʇʝꭓ"), (0xA7C4, "ꞔʂᶎꟈꟈꟊ"), (0xA7D0, "ꟑ"), (0xA7D6, "ꟗꟗꟙ"), (0xA7F5, "ꟶ"),
   (0xF900, "豈更車賈滑串句龜龜契金喇奈懶癩羅蘿螺裸邏樂洛烙珞落酪駱亂卵欄爛蘭鸞嵐濫藍襤拉臘蠟"),
   (0xF928, "廊朗浪狼郎來冷勞擄櫓爐盧老蘆虜路露魯鷺碌祿綠菉錄鹿論壟弄籠聾牢磊賂雷壘屢樓淚漏累"),
   (0xF950, "縷陋勒肋凜凌稜綾菱陵讀拏樂諾丹寧怒率異北磻便復不泌數索參塞省葉說殺辰沈拾若掠略亮"),
   (0xF978, "兩凉梁糧良諒量勵呂女廬旅濾礪閭驪麗黎力曆歷轢年憐戀撚漣煉璉秊練聯輦蓮連鍊列劣咽烈"),
   (0xF9A0, "裂說廉念捻殮簾獵令囹寧嶺怜玲瑩羚聆鈴零靈領例禮醴隸惡了僚寮尿料樂燎療蓼遼龍暈阮劉"),
   (0xF9C8, "杻柳流溜琉留硫紐類六戮陸倫崙淪輪律慄栗率隆利吏履易李梨泥理痢罹裏裡里離匿溺吝燐璘"),
   (0xF9F0, "藺隣鱗麟林淋臨立笠粒狀炙識什茶刺切度拓糖宅洞暴輻行降見廓兀嗀﨎﨏塚﨑晴﨓﨔凞猪益"),
   (0xFA18, "礼神祥福靖精羽﨟蘒﨡諸﨣﨤逸都﨧﨨﨩飯飼館鶴郞隷侮僧免勉勤卑喝嘆器塀墨層屮悔慨憎"),
   (0xFA40, "懲敏既暑梅海渚漢煮爫琢碑社祉祈祐祖祝禍禎穀突節練縉繁署者臭艹艹著褐視謁謹賓贈辶逸"),
   (0xFA68, "難響頻"),
   (0xFB50, "ٱٱٻٻٻٻپپپپڀڀڀڀٺٺٺٺٿٿٿٿٹٹٹٹڤڤڤڤڦڦڦڦڄڄڄڄڃڃڃڃچچچچڇڇڇڇڍڍڌڌڎڎڈڈژژڑڑککککگگگگڳڳڳڳڱڱڱڱںں"),
   (0xFBA0, "ڻڻڻڻۀۀہہہہھھھھےےۓۓ"), (0xFBDE, "ۋۋۅۅۉۉېېېېىى"),
   (0xFE31, "—–__()\x7b\x7d〔〕【】《》〈〉「」『』"),
   (0xFE4D, "___,、.\ufe53;:?!—()\x7b\x7d〔〕#&*+-<>=\ufe67\\$%@"),
   (0xFE80, "ءآآأأؤؤإإئئئئااببببةةتتتتثثثثججججححححخخخخددذذررززسسسسششششصصصصضضضضططططظظظظععععغغغ"),
   (0xFED0, "غففففققققككككللللممممننننههههووىىيييي"),
   (0xFF5F, "⦅⦆。「」、・ヲァィゥェォャュョッーアイウエオカキクケコサシスセソタチツテト"),
   (0xFF8B, "ヒフヘホマミムメモヤユ"), (0xFF9C, "ワン\u3099\u309aᅠᄀᄁᆪᄂᆬᆭᄃᄄᄅ"),
   (0xFFB0, "ᄚᄆᄇᄈᄡ"), (0x10594, "𐖻𐖼"), (0x1D49C, "a𝒝cd𝒠𝒡g𝒣𝒤jk𝒧𝒨nopq"),
   (0x1D4B6, "abcd𝒺f𝒼hijk𝓁mn"), (0x1D504, "ab𝔆defg"), (0x1D538, "ab𝔺defg𝔿ijklm𝕅o"),
   (0x1D6B9, "θ"), (0x1D6C1, "∇"), (0x1D6D3, "σ"), (0x1D6DB, "∂εθκφρπ"), (0x1D6F3, "θ"),
   (0x1D6FB, "∇"), (0x1D70D, "σ"), (0x1D715, "∂εθκφρπ"), (0x1D72D, "θ"), (0x1D735, "∇"),
   (0x1D747, "σ"), (0x1D74F, "∂εθκφρπ"), (0x1D767, "θ"), (0x1D76F, "∇"), (0x1D781, "σ"),
   (0x1D789, "∂εθκφρπ"), (0x1D7A1, "θ"), (0x1D7A9, "∇"), (0x1D7BB, "σ"), (0x1D7C3, "∂εθκφρπ"),
   (0x2F800, "丽丸乁𠄢你侮侻倂偺備僧像㒞𠘺免兔兤具𠔜㒹內再𠕋冗冤仌冬况𩇟凵刃㓟刻剆割剷㔕勇勉勤"),
   (0x2F828, "勺包匆北卉卑博即卽卿卿卿𠨬灰及叟𠭣叫叱吆咞吸呈周咢哶唐啓啣善善喙喫喳嗂圖嘆圗噑噴"),
   (0x2F850, "切壮城埴堍型堲報墬𡓤売壷夆多夢奢𡚨𡛪姬娛娧姘婦㛮𡍪嬈嬾嬾𡧈寃寘寧寳𡬘寿将弳尢㞁屠"),
   (0x2F878, "屮峀岍𡷤嵃𡷦嵮嵫嵼巡巢㠯巽帨帽幩㡢𢆃㡼庰庳庶廊𪎒廾𢌱𢌱舁弢弢㣇𣊸𦇚形彫㣣徚忍志忹"),
   (0x2F8A0, "悁㤺㤜悔𢛔惇慈慌慎慌慺憎憲憤憯懞懲懶成戛扝抱拔捐𢬌挽拼捨掃揤𢯱搢揅掩㨮摩摾撝摷㩬"),
   (0x2F8C8, "敏敬𣀊旣書晉㬙暑㬈㫤冒冕最暜肭䏙朗望朡杞杓𣏃㭉柺枅桒梅𣑭梎栟椔㮝楂榣槪檨𣚣櫛㰘次"),
   (0x2F8F0, "𣢧歔㱎歲殟殺殻𣪍𡴋𣫺汎𣲼沿泍汧洖派海流浩浸涅𣴞洴港湮㴳滋滇𣻑淹潮𣽞𣾎濆瀹瀞瀛㶖灊"),
   (0x2F918, "災灷炭𠔥煅𤉣熜䎫爨爵牐𤘈犀犕𤜵𤠔獺王㺬玥㺸㺸瑇瑜瑱璅瓊㼛甤𤰶甾𤲒異𢆟瘐𤾡𤾸𥁄㿼䀈"),
   (0x2F940, "直𥃳𥃲𥄙𥄳眞真真睊䀹瞋䁆䂖𥐝硎碌磌䃣𥘦祖𥚚𥛅福秫䄯穀穊穏𥥼𥪧𥪧窮䈂𥮫篆築䈧𥲀糒䊠"),
   (0x2F968, "糨糣紀𥾆絣䌁緇縂繅䌴𦈨𦉇䍙𦋙罺𦌾羕翺者𦓚𦔣聠𦖨聰𣍟䏕育脃䐋脾媵𦞧𦞵𣎓𣎜舁舄辞䑫芑"),
   (0x2F990, "芋芝劳花芳芽苦𦬼若茝荣莭茣莽菧著荓菊菌菜𦰶𦵫𦳕䔫蓱蓳蔖𧏊蕤𦼬䕝䕡𦾱𧃒䕫虐虜虧虩蚩"),
   (0x2F9B8, "蚈蜎蛢蝹蜨蝫螆䵗蟡蠁䗹衠衣𧙧裗裞䘵裺㒻𧢮𧥦䚾䛇誠諭變豕𧲨貫賁贛起𧼯𠠄跋趼跰𠣞軔輸"),
   (0x2F9E0, "𨗒𨗭邔郱鄑𨜮鄛鈸鋗鋘鉼鏹鐕𨯺開䦕閷𨵷䧦雃嶲霣𩅅𩈚䩮䩶韠𩐊䪲𩒖頋頋頩𩖶飢䬳餩馧駂駾"),
   (0x2FA08, "䯎𩬰鬒鱀鳽䳎䳭鵧𪃎䳸𪄅𪈎𪊑麻䵖黹黾鼅鼏鼖鼻𪘀")]

/-- The first of code points in a row, and the texts that they mean with bars between them. -/
def foldedTexts : List (Nat × String) :=
  [(0xA8, " \u0308|©|a"), (0xAF, " \u0304|°|±|2|3| \u0301|μ|¶|·| \u0327|1|o|»|1⁄4|1⁄2|3⁄4"),
   (0xDF, "ss"), (0x130, "i\u0307|ı|ij|ij|ĵ|ĵ|ķ|ķ|ĸ|ĺ|ĺ|ļ|ļ|ľ|ľ|l·|l·|ł|ł|ń|ń|ņ|ņ|ň|ň|ʼn"),
   (0x1C4, "dž|dž|dž|lj|lj|lj|nj|nj|nj"), (0x1F1, "dz|dz|dz|ǵ|ǵ|ƕ|ƿ"),
   (0x2D8, " \u0306| \u0307| \u030a| \u0328| \u0303| \u030b|˞|˟|ɣ|l|s|x|ʕ"),
   (0x340, "\u0300|\u0301|\u0342|\u0313|\u0308\u0301|ι"),
   (0x370, "ͱ|ͱ|ͳ|ͳ|ʹ|͵|ͷ|ͷ|\u0378|\u0379| ι|ͻ|ͼ|ͽ|;|ϳ|\u0380|\u0381|\u0382|\u0383| \u0301"),
   (0x385, " \u0308\u0301|ά|·|έ|ή|ί|\u038b|ό|\u038d|ύ|ώ"), (0x587, "եւ"), (0x675, "اٴ|وٴ|ۇٴ|يٴ"),
   (0x958, "क\u093c|ख\u093c|ग\u093c|ज\u093c|ड\u093c|ढ\u093c|फ\u093c|य\u093c"),
   (0x9DC, "ড\u09bc|ঢ\u09bc|\u09de|য\u09bc"), (0xA33, "ਲ\u0a3c|\u0a34|ਵ|ਸ\u0a3c"),
   (0xA59, "ਖ\u0a3c|ਗ\u0a3c|ਜ\u0a3c|ੜ|\u0a5d|ਫ\u0a3c"), (0xB5C, "ଡ\u0b3c|ଢ\u0b3c"),
   (0xE33, "\u0e4dา"), (0xEB3, "\u0ecdາ"), (0xEDC, "ຫນ|ຫມ"), (0xF43, "ག\u0fb7"),
   (0xF4D, "ཌ\u0fb7|ཎ|ཏ|ཐ|ད|ད\u0fb7|ན|པ|ཕ|བ|བ\u0fb7|མ|ཙ|ཚ|ཛ|ཛ\u0fb7"), (0xF69, "ཀ\u0fb5"),
   (0xF73, "\u0f71\u0f72|\u0f74|\u0f71\u0f74|\u0fb2\u0f80|\u0fb2\u0f71\u0f80|\u0fb3\u0f80"),
   (0xF79, "\u0fb3\u0f71\u0f80"), (0xF81, "\u0f71\u0f80"), (0xF93, "\u0f92\u0fb7"),
   (0xF9D, "\u0f9c\u0fb7|\u0f9e|\u0f9f|\u0fa0|\u0fa1|\u0fa1\u0fb7|\u0fa3|\u0fa4|\u0fa5"),
   (0xFA6, "\u0fa6|\u0fa6\u0fb7|\u0fa8|\u0fa9|\u0faa|\u0fab|\u0fab\u0fb7"), (0xFB9, "\u0f90\u0fb5"),
   (0x1E9A, "aʾ|ṡ|ẜ|ẝ|ss"),
   (0x1F80, "ἀι|ἁι|ἂι|ἃι|ἄι|ἅι|ἆι|ἇι|ἀι|ἁι|ἂι|ἃι|ἄι|ἅι|ἆι|ἇι|ἠι|ἡι|ἢι|ἣι|ἤι|ἥι|ἦι|ἧι|ἠι|ἡι|ἢι"),
   (0x1F9B, "ἣι|ἤι|ἥι|ἦι|ἧι|ὠι|ὡι|ὢι|ὣι|ὤι|ὥι|ὦι|ὧι|ὠι|ὡι|ὢι|ὣι|ὤι|ὥι|ὦι|ὧι|ᾰ|ᾱ|ὰι|αι|άι"),
   (0x1FB5, "\u1fb5|ᾶ|ᾶι|ᾰ|ᾱ|ὰ|ά|αι| \u0313|ι| \u0313| \u0342| \u0308\u0342|ὴι|ηι|ήι|\u1fc5|ῆ"),
   (0x1FC7, "ῆι|ὲ|έ|ὴ|ή|ηι| \u0313\u0300| \u0313\u0301| \u0313\u0342"),
   (0x1FDD, " \u0314\u0300| \u0314\u0301| \u0314\u0342"),
   (0x1FED, " \u0308\u0300| \u0308\u0301|`|\u1ff0|\u1ff1|ὼι|ωι|ώι|\u1ff5|ῶ|ῶι|ὸ|ό|ὼ|ώ|ωι"),
   (0x1FFD, " \u0301| \u0314"), (0x2017, " \u0333"), (0x2024, ".|..|..."),
   (0x2033, "′′|′′′|‵|‵‵|‵‵‵|‸|‹|›|※|!!|‽| \u0305"), (0x2047, "??|?!|!?"), (0x2057, "′′′′"),
   (0x20A8, "rs"), (0x2100, "a/c|a/s|c|°c|℄|c/o|c/u|ɛ|℈|°f"),
   (0x2116, "no|℗|℘|p|q|r|r|r|℞|℟|sm|tel|tm"),
   (0x2153, "1⁄3|2⁄3|1⁄5|2⁄5|3⁄5|4⁄5|1⁄6|5⁄6|1⁄8|3⁄8|5⁄8|7⁄8|1⁄|i|ii|iii|iv|v|vi|vii|viii|ix"),
   (0x2169, "x|xi|xii|l|c|d|m|i|ii|iii|iv|v|vi|vii|viii|ix|x|xi|xii|l|c|d|m|ↀ|ↁ|ↂ|ↄ"),
   (0x222C, "∫∫|∫∫∫|∮|∮∮|∮∮∮"),
   (0x2469, "10|11|12|13|14|15|16|17|18|19|20|(1)|(2)|(3)|(4)|(5)|(6)|(7)|(8)|(9)|(10)|(11)"),
   (0x247F, "(12)|(13)|(14)|(15)|(16)|(17)|(18)|(19)|(20)|1.|2.|3.|4.|5.|6.|7.|8.|9.|10.|11."),
   (0x2493, "12.|13.|14.|15.|16.|17.|18.|19.|20.|(a)|(b)|(c)|(d)|(e)|(f)|(g)|(h)|(i)|(j)|(k)"),
   (0x24A7, "(l)|(m)|(n)|(o)|(p)|(q)|(r)|(s)|(t)|(u)|(v)|(w)|(x)|(y)|(z)"), (0x2A0C, "∫∫∫∫"),
   (0x2A74, "::=|==|==="), (0x2ADC, "⫝\u0338"), (0x309B, " \u3099| \u309a|ゝ|ゞ|より"),
   (0x30FF, "コト"),
   (0x3200, "(ᄀ)|(ᄂ)|(ᄃ)|(ᄅ)|(ᄆ)|(ᄇ)|(ᄉ)|(ᄋ)|(ᄌ)|(ᄎ)|(ᄏ)|(ᄐ)|(ᄑ)|(ᄒ)|(가)|(나)"),
   (0x3210, "(다)|(라)|(마)|(바)|(사)|(아)|(자)|(차)|(카)|(타)|(파)|(하)|(주)|㈝|㈞|\u321f"),
   (0x3220, "(一)|(二)|(三)|(四)|(五)|(六)|(七)|(八)|(九)|(十)|(月)|(火)|(水)|(木)|(金)|(土)"),
   (0x3230, "(日)|(株)|(有)|(社)|(名)|(特)|(財)|(祝)|(労)|(代)|(呼)|(学)|(監)|(企)|(資)|(協)"),
   (0x3240, "(祭)|(休)|(自)|(至)"), (0x3251, "21|22|23|24|25|26|27|28|29|30|31|32|33|34|35"),
   (0x32B1, "36|37|38|39|40|41|42|43|44|45|46|47|48|49|50|1月|2月|3月|4月|5月|6月|7月|8月|9月"),
   (0x32C9, "10月|11月|12月"),
   (0x32FB, "ワ|ヰ|ヱ|ヲ|㋿|アパート|アルファ|アンペア|アール|イニング|インチ|ウォン"),
   (0x3307, "エスクード|エーカー|オンス|オーム|カイリ|カラット|カロリー|ガロン|ガンマ|ギガ"),
   (0x3311, "ギニー|キュリー|ギルダー|キロ|キログラム|キロメートル|キロワット|グラム"),
   (0x3319, "グラムトン|クルゼイロ|クローネ|ケース|コルナ|コーポ|サイクル|サンチーム|シリング"),
   (0x3322, "センチ|セント|ダース|デシ|ドル|トン|ナノ|ノット|ハイツ|パーセント|パーツ"),
   (0x332D, "バーレル|ピアストル|ピクル|ピコ|ビル|ファラッド|フィート|ブッシェル|フラン"),
   (0x3336, "ヘクタール|ペソ|ペニヒ|ヘルツ|ペンス|ページ|ベータ|ポイント|ボルト|ホン|ポンド"),
   (0x3341, "ホール|ホーン|マイクロ|マイル|マッハ|マルク|マンション|ミクロン|ミリ|ミリバール"),
   (0x334B, "メガ|メガトン|メートル|ヤード|ヤール|ユアン|リットル|リラ|ルピー|ルーブル|レム"),
   (0x3356, "レントゲン|ワット|0点|1点|2点|3点|4点|5点|6点|7点|8点|9点|10点|11点|12点|13点"),
   (0x3366, "14点|15点|16点|17点|18点|19点|20点|21点|22点|23点|24点|hpa|da|au|bar|ov|pc|㍷|㍸"),
   (0x3379, "㍹|㍺|平成|昭和|大正|明治|株式会社|pa|na|μa|ma|ka|kb|mb|gb|cal|kcal|pf|nf|μf|μg"),
   (0x338E, "mg|kg|hz|khz|mhz|ghz|thz|μl|ml|dl|kl|fm|nm|μm|mm|cm|km|mm2|cm2|m2|km2|mm3|cm3|m3"),
   (0x33A6, "km3|m∕s|m∕s2|pa|kpa|mpa|gpa|rad|rad∕s|rad∕s2|ps|ns|μs|ms|pv|nv|μv|mv|kv|mv|pw|nw"),
   (0x33BC, "μw|mw|kw|mw|kω|mω|a.m.|bq|cc|cd|c∕kg|co.|db|gy|ha|hp|in|kk|km|kt|lm|ln|log|lx|mb"),
   (0x33D5, "mil|mol|ph|p.m.|ppm|pr|sr|sv|wb|㏞|㏟|1日|2日|3日|4日|5日|6日|7日|8日|9日|10日"),
   (0x33EA, "11日|12日|13日|14日|15日|16日|17日|18日|19日|20日|21日|22日|23日|24日|25日|26日"),
   (0x33FA, "27日|28日|29日|30日|31日"), (0xFB00, "ff|fi|fl|ffi|ffl|st|st"),
   (0xFB13, "մն|մե|մի|վն|մխ"),
   (0xFB1D, "י\u05b4|\ufb1e|ײ\u05b7|ע|א|ד|ה|כ|ל|ם|ר|ת|+|ש\u05c1|ש\u05c2|ש\u05bc\u05c1"),
   (0xFB2D, "ש\u05bc\u05c2|א\u05b7|א\u05b8|א\u05bc|ב\u05bc|ג\u05bc|ד\u05bc|ה\u05bc|ו\u05bc"),
   (0xFB36, "ז\u05bc|\ufb37|ט\u05bc|י\u05bc|ך\u05bc|כ\u05bc|ל\u05bc|\ufb3d|מ\u05bc|\ufb3f"),
   (0xFB40, "נ\u05bc|ס\u05bc|\ufb42|ף\u05bc|פ\u05bc|\ufb45|צ\u05bc|ק\u05bc|ר\u05bc|ש\u05bc"),
   (0xFB4A, "ת\u05bc|ו\u05b9|ב\u05bf|כ\u05bf|פ\u05bf|אל"), (0xFBD3, "ڭ|ڭ|ڭ|ڭ|ۇ|ۇ|ۆ|ۆ|ۈ|ۈ|ۇٴ"),
   (0xFBEA, "ئا|ئا|ئە|ئە|ئو|ئو|ئۇ|ئۇ|ئۆ|ئۆ|ئۈ|ئۈ|ئې|ئې|ئې|ئى|ئى|ئى|ی|ی|ی|ی|ئج|ئح|ئم|ئى|ئي|بج"),
   (0xFC06, "بح|بخ|بم|بى|بي|تج|تح|تخ|تم|تى|تي|ثج|ثم|ثى|ثي|جح|جم|حج|حم|خج|خح|خم|سج|سح|سخ|سم|صح"),
   (0xFC21, "صم|ضج|ضح|ضخ|ضم|طح|طم|ظم|عج|عم|غج|غم|فج|فح|فخ|فم|فى|في|قح|قم|قى|قي|كا|كج|كح|كخ|كل"),
   (0xFC3C, "كم|كى|كي|لج|لح|لخ|لم|لى|لي|مج|مح|مخ|مم|مى|مي|نج|نح|نخ|نم|نى|ني|هج|هم|هى|هي|يج|يح"),
   (0xFC57, "يخ|يم|يى|يي|ذ\u0670|ر\u0670|ى\u0670| \u064c\u0651| \u064d\u0651| \u064e\u0651"),
   (0xFC61, " \u064f\u0651| \u0650\u0651| \u0651\u0670|ئر|ئز|ئم|ئن|ئى|ئي|بر|بز|بم|بن|بى|بي|تر"),
   (0xFC71, "تز|تم|تن|تى|تي|ثر|ثز|ثم|ثن|ثى|ثي|فى|في|قى|قي|كا|كل|كم|كى|كي|لم|لى|لي|ما|مم|نر|نز"),
   (0xFC8C, "نم|نن|نى|ني|ى\u0670|ير|يز|يم|ين|يى|يي|ئج|ئح|ئخ|ئم|ئه|بج|بح|بخ|بم|به|تج|تح|تخ|تم"),
   (0xFCA5, "ته|ثم|جح|جم|حج|حم|خج|خم|سج|سح|سخ|سم|صح|صخ|صم|ضج|ضح|ضخ|ضم|طح|ظم|عج|عم|غج|غم|فج|فح"),
   (0xFCC0, "فخ|فم|قح|قم|كج|كح|كخ|كل|كم|لج|لح|لخ|لم|له|مج|مح|مخ|مم|نج|نح|نخ|نم|نه|هج|هم"),
   (0xFCD9, "ه\u0670|يج|يح|يخ|يم|يه|ئم|ئه|بم|به|تم|ته|ثم|ثه|سم|سه|شم|شه|كل|كم|لم|نم|نه|يم|يه"),
   (0xFCF2, "ـ\u064e\u0651|ـ\u064f\u0651|ـ\u0650\u0651|طى|طي|عى|عي|غى|غي|سى|سي|شى|شي|حى|حي|جى"),
   (0xFD02, "جي|خى|خي|صى|صي|ضى|ضي|شج|شح|شخ|شم|شر|سر|صر|ضر|طى|طي|عى|عي|غى|غي|سى|سي|شى|شي|حى|حي"),
   (0xFD1D, "جى|جي|خى|خي|صى|صي|ضى|ضي|شج|شح|شخ|شم|شر|سر|صر|ضر|شج|شح|شخ|شم|سه|شه|طم|سج|سح|سخ|شج"),
   (0xFD38, "شح|شخ|طم|ظم|ا\u064b|ا\u064b"),
   (0xFD50, "تجم|تحج|تحج|تحم|تخم|تمج|تمح|تمخ|جمح|جمح|حمي|حمى|سحج|سجح|سجى|سمح|سمح|سمج|سمم|سمم"),
   (0xFD64, "صحح|صحح|صمم|شحم|شحم|شجي|شمخ|شمخ|شمم|شمم|ضحى|ضخم|ضخم|طمح|طمح|طمم|طمي|عجم|عمم|عمم"),
   (0xFD78, "عمى|غمم|غمي|غمى|فخم|فخم|قمح|قمم|لحم|لحي|لحى|لجج|لجج|لخم|لخم|لمح|لمح|محج|محم|محي"),
   (0xFD8C, "مجح|مجم|مخج|مخم|\ufd90|\ufd91|مجخ|همج|همم|نحم|نحى|نجم|نجم|نجى|نمي|نمى|يمم|يمم"),
   (0xFD9E, "بخي|تجي|تجى|تخي|تخى|تمي|تمى|جمي|جحى|جمى|سخى|صحي|شحي|ضحي|لجي|لمي|يحي|يجي|يمي|ممي"),
   (0xFDB2, "قمي|نحي|قمح|لحم|عمي|كمي|نجح|مخي|لجم|كمم|لجم|نجح|جحي|حجي|مجي|فمي|بحي|كمم|عجم|صمم"),
   (0xFDC6, "سخي|نجي"),
   (0xFDF0, "صلے|قلے|الله|اكبر|محمد|صلعم|رسول|عليه|وسلم|صلى|صلى الله عليه وسلم|جل جلاله|ریال"),
   (0xFE30, ".."), (0xFE49, " \u0305| \u0305| \u0305| \u0305"),
   (0xFE70, " \u064b|ـ\u064b| \u064c|ﹳ| \u064d|\ufe75| \u064e|ـ\u064e| \u064f|ـ\u064f| \u0650"),
   (0xFE7B, "ـ\u0650| \u0651|ـ\u0651| \u0652|ـ\u0652"), (0xFEF5, "لآ|لآ|لأ|لأ|لإ|لإ|لا|لا"),
   (0xFFDA, "ᅳ|ᅴ|ᅵ|\uffdd|\uffde|\uffdf|¢|£|¬| \u0304|¦|¥|₩|\uffe7|│|←|↑|→|↓|■|○"),
   (0x1D15E, "𝅗𝅥|𝅘𝅥|𝅘𝅥𝅮|𝅘𝅥𝅯|𝅘𝅥𝅰|𝅘𝅥𝅱|𝅘𝅥𝅲"), (0x1D1BB, "𝆹𝅥|𝆺𝅥|𝆹𝅥𝅮|𝆺𝅥𝅮|𝆹𝅥𝅯|𝆺𝅥𝅯")]

def isIgnored (c : Char) : Bool := Text.isWithin ignoredBounds c

def isForbidden (c : Char) : Bool := Text.isWithin forbiddenBounds c

def foldByStretch? (n : Nat) : Option Text :=
  foldedStretches.findSome? fun (first, last, step, image) ↦
    if first ≤ n ∧ n ≤ last ∧ (n - first) % step = 0 then
      some [Char.ofNat (image.toNat + (n - first))]
    else none

/-- What a table with ascending rows says of a code point: it is in the last row that begins in
front of it, if in any. -/
def imagesAt? {α : Type} (images : String → List α) (rows : List (Nat × String)) (n : Nat) :
    Option α :=
  (rows.takeWhile (·.1 ≤ n)).getLast?.bind fun row ↦ (images row.2)[n - row.1]?

def foldByRow? (n : Nat) : Option Text :=
  imagesAt? (·.toList.map ([·])) foldedChars n <|> imagesAt? (·.toList.splitOn '|') foldedTexts n

def fold (c : Char) : Text :=
  let n := c.toNat
  if n < 0x80 then [c.toLower]
  else if isIgnored c then []
  else if Text.isWithin spaceBounds c then [' ']
  else (foldByStretch? n <|> foldByRow? n).getD [c]

end OnlineAssembler.Web.Label
