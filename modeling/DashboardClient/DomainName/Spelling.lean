import DashboardClient.DomainName.Refused

/-!
# Spellings

How a character is spelled in the name of a host. Capital letters are spelled as small ones,
and wide, narrow, styled and joined forms as the plain characters that they stand for. Some
characters do not count at all, and some are refused. All others are spelled as themselves,
also where a canonical decomposition replaces them later. The assignments are those of
Unicode 17.
-/

namespace DashboardClient.DomainName

/-- Runs of characters and how each is spelled, part 1. -/
def letterSpellingsA : List (Nat × String) := [
  (0x41, "abcdefghijklmnopqrstuvwxyz"), (0xA0, " "), (0xAA, "a"), (0xB2, "23"), (0xB5, "μ"),
  (0xB9, "1o"), (0xC0, "àáâãäåæçèéêëìíîïðñòóôõö×øùúûüýþ"),
  (0x100, "āāăăąąććĉĉċċččďďđđēēĕĕėėęęěěĝĝğğġġģģĥĥħħĩĩīīĭĭį"), (0x134, "ĵĵķķĸĺĺļļľ"),
  (0x141, "łłńńņņň"), (0x14A, "ŋŋōōŏŏőőœœŕŕŗŗřřśśŝŝşşššţţťťŧŧũũūūŭŭůůűűųųŵŵŷŷÿźźżżžžsƀɓƃƃƅ"),
  (0x186, "ɔƈƈɖɗƌƌƍǝəɛƒƒɠɣƕɩɨƙ"), (0x19C, "ɯɲƞɵơơƣƣƥƥʀƨƨʃƪƫƭƭʈưưʊʋƴƴƶƶʒƹ"), (0x1BC, "ƽ"),
  (0x1CD, "ǎǎǐǐǒǒǔǔǖǖǘǘǚǚǜǜǝǟǟǡǡǣǣǥǥǧǧǩǩǫǫǭǭǯ"),
  (0x1F4, "ǵǵƕƿǹǹǻǻǽǽǿǿȁȁȃȃȅȅȇȇȉȉȋȋȍȍȏȏȑȑȓȓȕȕȗȗșșțțȝȝȟȟƞȡȣȣȥȥȧȧȩȩȫȫȭȭȯ"), (0x230, "ȱȱȳ"),
  (0x23A, "ⱥȼȼƚⱦȿɀɂɂƀʉʌɇɇɉɉɋɋɍɍɏ"), (0x2B0, "hɦjrɹɻʁwy"), (0x2E0, "ɣlsxʕ"), (0x345, "ι"),
  (0x370, "ͱͱͳ"), (0x376, "ͷ"), (0x37F, "ϳ"), (0x386, "ά"), (0x388, "έήί"), (0x38C, "ό"),
  (0x38E, "ύώΐαβγδεζηθικλμνξοπρ"), (0x3A3, "στυφχψωϊϋ"),
  (0x3CF, "ϗβθυύϋφπϗϙϙϛϛϝϝϟϟϡϡϣϣϥϥϧϧϩϩϫϫϭϭϯϯκρσϳθε϶ϸϸσϻϻϼͻͼͽѐёђѓєѕіїјљњ"),
  (0x40B, "ћќѝўџабвгдежзийклмнопрстуфхцчшщъыьэюя"), (0x460, "ѡѡѣѣѥѥѧѧѩѩѫѫѭѭѯѯѱѱѳѳѵѵѷѷѹѹѻѻѽѽѿѿҁ"),
  (0x48A, "ҋҋҍҍҏҏґґғғҕҕҗҗҙҙққҝҝҟҟҡҡңңҥҥҧҧҩҩҫҫҭҭүүұұҳҳҵҵҷҷҹҹһһҽҽҿҿӏӂӂӄӄӆ"),
  (0x4C7, "ӈӈӊӊӌӌӎӎӏӑӑӓӓӕӕӗӗәәӛӛӝӝӟӟӡӡӣӣӥӥӧӧөөӫӫӭӭӯӯӱӱӳӳӵӵӷӷӹӹӻӻӽӽӿӿԁԁԃ"),
  (0x504, "ԅԅԇԇԉԉԋԋԍԍԏԏԑԑԓԓԕԕԗԗԙԙԛԛԝԝԟԟԡԡԣԣԥԥԧԧԩԩԫԫԭԭԯ"),
  (0x531, "աբգդեզէըթժիլխծկհձղճմյնշոչպջռսվտրցւփքօֆ"), (0xF0C, "་"),
  (0x10A0, "ⴀⴁⴂⴃⴄⴅⴆⴇⴈⴉⴊⴋⴌⴍⴎⴏⴐⴑⴒⴓⴔⴕⴖⴗⴘⴙⴚⴛⴜⴝⴞⴟⴠⴡⴢⴣⴤⴥ"), (0x10C7, "ⴧ"), (0x10CD, "ⴭ"), (0x10FC, "ნ"),
  (0x13F8, "ᏰᏱᏲᏳᏴᏵ"), (0x1C80, "вдосттъѣꙋᲊ"),
  (0x1C90, "აბგდევზთიკლმნოპჟრსტუფქღყშჩცძწჭხჯჰჱჲჳჴჵჶჷჸჹჺ"), (0x1CBD, "ჽჾჿ"),
  (0x1D2C, "aæbᴯdeǝghijklmnᴻoȣprtuwaɐɑᴂbdeəɛɜgᵎkmŋoɔᴖᴗptuᴝɯvᴥβγδφχiruvβγ"), (0x1D68, "ρφχ"),
  (0x1D78, "н"), (0x1D9B, "ɒcɕðɜfɟɡɥɨɩɪᵻʝɭᶅʟɱɰɲɳɴɵɸʂʃƫʉʊᴜʋʌzʐʑʒθ"),
  (0x1E00, "ḁḁḃḃḅḅḇḇḉḉḋḋḍḍḏḏḑḑḓḓḕḕḗḗḙḙḛḛḝḝḟḟḡḡḣḣḥḥḧḧḩḩḫḫḭḭḯḯḱḱḳḳḵḵḷḷḹḹḻ"),
  (0x1E3C, "ḽḽḿḿṁṁṃṃṅṅṇṇṉṉṋṋṍṍṏṏṑṑṓṓṕṕṗṗṙṙṛṛṝṝṟṟṡṡṣṣṥṥṧṧṩṩṫṫṭṭṯṯṱṱṳṳṵṵṷ"),
  (0x1E78, "ṹṹṻṻṽṽṿṿẁẁẃẃẅẅẇẇẉẉẋẋẍẍẏẏẑẑẓẓẕ"),
  (0x1E9B, "ṡẜẝßẟạạảảấấầầẩẩẫẫậậắắằằẳẳẵẵặặẹẹẻẻẽẽếếềềểểễễệệỉỉịịọọỏỏốốồồổổỗ"),
  (0x1ED8, "ộộớớờờởởỡỡợợụụủủứứừừửửữữựựỳỳỵỵỷỷỹỹỻỻỽỽỿ"), (0x1F08, "ἀἁἂἃἄἅἆἇ"), (0x1F18, "ἐἑἒἓἔἕ"),
  (0x1F28, "ἠἡἢἣἤἥἦἧ"), (0x1F38, "ἰἱἲἳἴἵἶἷ"), (0x1F48, "ὀὁὂὃὄὅ"), (0x1F59, "ὑ"), (0x1F5B, "ὓ"),
  (0x1F5D, "ὕ"), (0x1F5F, "ὗ"), (0x1F68, "ὠὡὢὣὤὥὦὧ"), (0x1FB8, "ᾰᾱὰά"), (0x1FC8, "ὲέὴή"),
  (0x1FD8, "ῐῑὶί"), (0x1FE8, "ῠῡὺύῥ"), (0x1FF8, "ὸόὼώ"), (0x2000, "           ")]

/-- Runs of characters and how each is spelled, part 2. -/
def letterSpellingsB : List (Nat × String) := [
  (0x2011, "‐"), (0x202F, " "), (0x205F, " "), (0x2070, "0i"),
  (0x2074, "456789+−=()n0123456789+−=()"), (0x2090, "aeoxəhklmnpst"), (0x2102, "c"), (0x2107, "ɛ"),
  (0x210A, "ghhhhħiill℔n"), (0x2119, "pqrrr"),
  (0x2124, "z℥ω℧z℩kåbc℮eefⅎmo\u05d0\u05d1\u05d2\u05d3i"), (0x213C, "πγγπ∑"), (0x2145, "ddeij"),
  (0x2160, "i"), (0x2164, "v"), (0x2169, "x"), (0x216C, "lcdmi"), (0x2174, "v"), (0x2179, "x"),
  (0x217C, "lcdm"), (0x2183, "ↄ"), (0x2460, "123456789"),
  (0x24B6, "abcdefghijklmnopqrstuvwxyzabcdefghijklmnopqrstuvwxyz0"),
  (0x2C00, "ⰰⰱⰲⰳⰴⰵⰶⰷⰸⰹⰺⰻⰼⰽⰾⰿⱀⱁⱂⱃⱄⱅⱆⱇⱈⱉⱊⱋⱌⱍⱎⱏⱐⱑⱒⱓⱔⱕⱖⱗⱘⱙⱚⱛⱜⱝⱞⱟ"), (0x2C60, "ⱡⱡɫᵽɽⱥⱦⱨⱨⱪⱪⱬⱬɑɱɐɒⱱⱳⱳⱴⱶ"),
  (0x2C7C, "jvȿɀⲁⲁⲃⲃⲅⲅⲇⲇⲉⲉⲋⲋⲍⲍⲏⲏⲑⲑⲓⲓⲕⲕⲗⲗⲙⲙⲛⲛⲝⲝⲟⲟⲡⲡⲣⲣⲥⲥⲧⲧⲩⲩⲫⲫⲭⲭⲯⲯⲱⲱⲳⲳⲵⲵⲷ"),
  (0x2CB8, "ⲹⲹⲻⲻⲽⲽⲿⲿⳁⳁⳃⳃⳅⳅⳇⳇⳉⳉⳋⳋⳍⳍⳏⳏⳑⳑⳓⳓⳕⳕⳗⳗⳙⳙⳛⳛⳝⳝⳟⳟⳡⳡⳣ"), (0x2CEB, "ⳬⳬⳮ"), (0x2CF2, "ⳳ"),
  (0x2D6F, "ⵡ"), (0x2E9F, "母"), (0x2EF3, "龟"), (0x2F00, "一丨丶丿乙亅二亠人儿入八冂冖冫几凵刀力勹匕匚匸十卜卩厂厶又口"),
  (0x2F1E, "囗土士夂夊夕大女子宀寸小尢尸屮山巛工己巾干幺广廴廾弋弓彐彡彳"), (0x2F3C, "心戈戶手支攴文斗斤方无日曰月木欠止歹殳毋比毛氏气水火爪父爻爿"),
  (0x2F5A, "片牙牛犬玄玉瓜瓦甘生用田疋疒癶白皮皿目矛矢石示禸禾穴立竹米糸"), (0x2F78, "缶网羊羽老而耒耳聿肉臣自至臼舌舛舟艮色艸虍虫血行衣襾見角言谷"),
  (0x2F96, "豆豕豸貝赤走足身車辛辰辵邑酉釆里金長門阜隶隹雨靑非面革韋韭音"), (0x2FB4, "頁風飛食首香馬骨高髟鬥鬯鬲鬼魚鳥鹵鹿麥麻黃黍黑黹黽鼎鼓鼠鼻齊"),
  (0x2FD2, "齒龍龜龠"), (0x3000, " 、."), (0x3036, "〒〷十卄卅"), (0x3131, "ᄀᄁᆪᄂᆬᆭᄃᄄᄅᆰᆱᆲᆳᆴᆵᄚᄆᄇᄈᄡᄉᄊᄋᄌᄍᄎᄏᄐᄑᄒ"),
  (0x314F, "ᅡᅢᅣᅤᅥᅦᅧᅨᅩᅪᅫᅬᅭᅮᅯᅰᅱᅲᅳᅴᅵ"), (0x3165, "ᄔᄕᇇᇈᇌᇎᇓᇗᇙᄜᇝᇟᄝᄞᄠᄢᄣᄧᄩᄫᄬᄭᄮᄯᄲᄶᅀᅇᅌᇱ"),
  (0x3183, "ᇲᅗᅘᅙᆄᆅᆈᆑᆒᆔᆞᆡ"), (0x3192, "一二三四上中下甲乙丙丁天地人"), (0x3244, "問幼文箏"),
  (0x3260, "ᄀᄂᄃᄅᄆᄇᄉᄋᄌᄎᄏᄐᄑᄒ가나다라마바사아자차카타파하"), (0x327E, "우㉿一二三四五六七八九十月火水木金土日株有社名特財祝労秘男女"),
  (0x329C, "適優印注項休写正上中下左右医宗学監企資協夜"), (0x32D0, "アイウエオカキクケコサシスセソタチツテトナニヌネノハヒフヘホ"),
  (0x32EE, "マミムメモヤユヨラリルレロワヰヱヲ"), (0xA640, "ꙁꙁꙃꙃꙅꙅꙇꙇꙉꙉꙋꙋꙍꙍꙏꙏꙑꙑꙓꙓꙕꙕꙗꙗꙙꙙꙛꙛꙝꙝꙟꙟꙡꙡꙣꙣꙥꙥꙧꙧꙩꙩꙫꙫꙭ"),
  (0xA680, "ꚁꚁꚃꚃꚅꚅꚇꚇꚉꚉꚋꚋꚍꚍꚏꚏꚑꚑꚓꚓꚕꚕꚗꚗꚙꚙꚛꚛъь"), (0xA722, "ꜣꜣꜥꜥꜧꜧꜩꜩꜫꜫꜭꜭꜯ"),
  (0xA732, "ꜳꜳꜵꜵꜷꜷꜹꜹꜻꜻꜽꜽꜿꜿꝁꝁꝃꝃꝅꝅꝇꝇꝉꝉꝋꝋꝍꝍꝏꝏꝑꝑꝓꝓꝕꝕꝗꝗꝙꝙꝛꝛꝝꝝꝟꝟꝡꝡꝣꝣꝥꝥꝧꝧꝩꝩꝫꝫꝭ"), (0xA76E, "ꝯꝯꝯ"),
  (0xA779, "ꝺꝺꝼꝼᵹꝿꝿꞁꞁꞃꞃꞅꞅꞇ"), (0xA78B, "ꞌꞌɥꞎꞏꞑꞑꞓ"),
  (0xA796, "ꞗꞗꞙꞙꞛꞛꞝꞝꞟꞟꞡꞡꞣꞣꞥꞥꞧꞧꞩꞩɦɜɡɬɪꞯʞʇʝꭓꞵꞵꞷꞷꞹꞹꞻꞻꞽꞽꞿꞿꟁꟁꟃꟃꞔʂᶎꟈꟈꟊꟊɤꟍꟍ꟏꟏ꟑ"), (0xA7D2, "ꟓꟓꟕꟕꟗꟗꟙꟙꟛꟛƛ"),
  (0xA7F1, "scfqꟶꟶꟷħœ"), (0xAB5C, "ꜧꬷɫꭒ"), (0xAB69, "ʍ"),
  (0xAB70, "ᎠᎡᎢᎣᎤᎥᎦᎧᎨᎩᎪᎫᎬᎭᎮᎯᎰᎱᎲᎳᎴᎵᎶᎷᎸᎹᎺᎻᎼᎽᎾᎿᏀᏁᏂᏃᏄᏅᏆᏇᏈᏉᏊᏋᏌᏍᏎᏏᏐᏑᏒᏓᏔᏕᏖᏗᏘᏙᏚᏛ"),
  (0xABAC, "ᏜᏝᏞᏟᏠᏡᏢᏣᏤᏥᏦᏧᏨᏩᏪᏫᏬᏭᏮᏯ"),
  (0xFB20, "\u05e2\u05d0\u05d3\u05d4\u05db\u05dc\u05dd\u05e8\u05ea+"),
  (0xFB50, "\u0671\u0671\u067b\u067b\u067b\u067b\u067e\u067e\u067e\u067e"),
  (0xFB5A, "\u0680\u0680\u0680\u0680\u067a\u067a\u067a\u067a\u067f\u067f")]

/-- Runs of characters and how each is spelled, part 3. -/
def letterSpellingsC : List (Nat × String) := [
  (0xFB64, "\u067f\u067f\u0679\u0679\u0679\u0679\u06a4\u06a4\u06a4\u06a4"),
  (0xFB6E, "\u06a6\u06a6\u06a6\u06a6\u0684\u0684\u0684\u0684\u0683\u0683"),
  (0xFB78, "\u0683\u0683\u0686\u0686\u0686\u0686\u0687\u0687\u0687\u0687"),
  (0xFB82, "\u068d\u068d\u068c\u068c\u068e\u068e\u0688\u0688\u0698\u0698"),
  (0xFB8C, "\u0691\u0691\u06a9\u06a9\u06a9\u06a9\u06af\u06af\u06af\u06af"),
  (0xFB96, "\u06b3\u06b3\u06b3\u06b3\u06b1\u06b1\u06b1\u06b1\u06ba\u06ba"),
  (0xFBA0, "\u06bb\u06bb\u06bb\u06bb\u06c0\u06c0\u06c1\u06c1\u06c1\u06c1"),
  (0xFBAA, "\u06be\u06be\u06be\u06be\u06d2\u06d2\u06d3\u06d3"),
  (0xFBD3, "\u06ad\u06ad\u06ad\u06ad\u06c7\u06c7\u06c6\u06c6\u06c8\u06c8"),
  (0xFBDE, "\u06cb\u06cb\u06c5\u06c5\u06c9\u06c9\u06d0\u06d0\u06d0\u06d0"),
  (0xFBE8, "\u0649\u0649"), (0xFBFC, "\u06cc\u06cc\u06cc\u06cc"), (0xFE10, ",、"),
  (0xFE13, ":;!?〖〗"), (0xFE31, "—–__()\x7b\x7d〔〕【】《》〈〉「」『』﹅﹆[]"), (0xFE4D, "___,、"),
  (0xFE54, ";:?!—()\x7b\x7d〔〕#&*+-<>="), (0xFE68, "\\$%@"),
  (0xFE80, "\u0621\u0622\u0622\u0623\u0623\u0624\u0624\u0625\u0625\u0626"),
  (0xFE8A, "\u0626\u0626\u0626\u0627\u0627\u0628\u0628\u0628\u0628\u0629"),
  (0xFE94, "\u0629\u062a\u062a\u062a\u062a\u062b\u062b\u062b\u062b\u062c"),
  (0xFE9E, "\u062c\u062c\u062c\u062d\u062d\u062d\u062d\u062e\u062e\u062e"),
  (0xFEA8, "\u062e\u062f\u062f\u0630\u0630\u0631\u0631\u0632\u0632\u0633"),
  (0xFEB2, "\u0633\u0633\u0633\u0634\u0634\u0634\u0634\u0635\u0635\u0635"),
  (0xFEBC, "\u0635\u0636\u0636\u0636\u0636\u0637\u0637\u0637\u0637\u0638"),
  (0xFEC6, "\u0638\u0638\u0638\u0639\u0639\u0639\u0639\u063a\u063a\u063a"),
  (0xFED0, "\u063a\u0641\u0641\u0641\u0641\u0642\u0642\u0642\u0642\u0643"),
  (0xFEDA, "\u0643\u0643\u0643\u0644\u0644\u0644\u0644\u0645\u0645\u0645"),
  (0xFEE4, "\u0645\u0646\u0646\u0646\u0646\u0647\u0647\u0647\u0647\u0648"),
  (0xFEEE, "\u0648\u0649\u0649\u064a\u064a\u064a\u064a"),
  (0xFF01, "!\"#$%&\x27()*+,-./0123456789:"), (0xFF1B, ";<=>?@abcdefghijklmnopqrstuvwx"),
  (0xFF39, "yz[\\]^_\x60abcdefghijklmnopqr"), (0xFF53, "stuvwxyz\x7b\x7c\x7d~⦅⦆.「」、・ヲァ"),
  (0xFF68, "ィゥェォャュョッーアイウエオカキクケコサシスセソタチツテトナ"), (0xFF86, "ニヌネノハヒフヘホマミムメモヤユヨラリルレロワン\u3099"),
  (0xFF9F, "\u309a"), (0xFFA1, "ᄀᄁᆪᄂᆬᆭᄃᄄᄅᆰᆱᆲᆳᆴᆵᄚᄆᄇᄈᄡᄉᄊᄋᄌᄍᄎᄏᄐᄑᄒ"), (0xFFC2, "ᅡᅢᅣᅤᅥᅦ"),
  (0xFFCA, "ᅧᅨᅩᅪᅫᅬ"), (0xFFD2, "ᅭᅮᅯᅰᅱᅲ"), (0xFFDA, "ᅳᅴᅵ"), (0xFFE0, "¢£¬"), (0xFFE4, "¦¥₩"),
  (0xFFE8, "│←↑→↓■○"), (0x10400, "𐐨𐐩𐐪𐐫𐐬𐐭𐐮𐐯𐐰𐐱𐐲𐐳𐐴𐐵𐐶𐐷𐐸𐐹𐐺𐐻𐐼𐐽𐐾𐐿𐑀𐑁𐑂𐑃𐑄𐑅𐑆𐑇𐑈𐑉𐑊𐑋𐑌𐑍𐑎𐑏"),
  (0x104B0, "𐓘𐓙𐓚𐓛𐓜𐓝𐓞𐓟𐓠𐓡𐓢𐓣𐓤𐓥𐓦𐓧𐓨𐓩𐓪𐓫𐓬𐓭𐓮𐓯𐓰𐓱𐓲𐓳𐓴𐓵𐓶𐓷𐓸𐓹𐓺𐓻"), (0x10570, "𐖗𐖘𐖙𐖚𐖛𐖜𐖝𐖞𐖟𐖠𐖡"),
  (0x1057C, "𐖣𐖤𐖥𐖦𐖧𐖨𐖩𐖪𐖫𐖬𐖭𐖮𐖯𐖰𐖱"), (0x1058C, "𐖳𐖴𐖵𐖶𐖷𐖸𐖹"), (0x10594, "𐖻𐖼"), (0x10781, "ːˑæʙɓ"),
  (0x10787, "ʣꭦʥʤɖɗᶑɘɞʩɤɢɠʛħʜɧʄʪʫɬ𝼄ꞎɮ𝼅ʎ𝼆øɶɷqɺ𝼈ɽɾʀʨʦꭧʧʈⱱ"), (0x107B2, "ʏʡʢʘǀǁǂ𝼊𝼞"),
  (0x10C80, "𐳀𐳁𐳂𐳃𐳄𐳅𐳆𐳇𐳈𐳉𐳊𐳋𐳌𐳍𐳎𐳏𐳐𐳑𐳒𐳓𐳔𐳕𐳖𐳗𐳘𐳙𐳚𐳛𐳜𐳝𐳞𐳟𐳠𐳡𐳢𐳣𐳤𐳥𐳦𐳧𐳨𐳩𐳪𐳫𐳬𐳭𐳮𐳯𐳰𐳱𐳲"),
  (0x10D50, "𐵰𐵱𐵲𐵳𐵴𐵵𐵶𐵷𐵸𐵹𐵺𐵻𐵼𐵽𐵾𐵿𐶀𐶁𐶂𐶃𐶄𐶅"), (0x118A0, "𑣀𑣁𑣂𑣃𑣄𑣅𑣆𑣇𑣈𑣉𑣊𑣋𑣌𑣍𑣎𑣏𑣐𑣑𑣒𑣓𑣔𑣕𑣖𑣗𑣘𑣙𑣚𑣛𑣜𑣝𑣞𑣟"),
  (0x16E40, "𖹠𖹡𖹢𖹣𖹤𖹥𖹦𖹧𖹨𖹩𖹪𖹫𖹬𖹭𖹮𖹯𖹰𖹱𖹲𖹳𖹴𖹵𖹶𖹷𖹸𖹹𖹺𖹻𖹼𖹽𖹾𖹿"), (0x16EA0, "𖺻𖺼𖺽𖺾𖺿𖻀𖻁𖻂𖻃𖻄𖻅𖻆𖻇𖻈𖻉𖻊𖻋𖻌𖻍𖻎𖻏𖻐𖻑𖻒𖻓"),
  (0x1CCD6, "abcdefghijklmnopqrstuvwxyz0123456789"),
  (0x1D400, "abcdefghijklmnopqrstuvwxyzabcdefghijklmnopqrstuvwxyzabcdefgh"),
  (0x1D43C, "ijklmnopqrstuvwxyzabcdefg"),
  (0x1D456, "ijklmnopqrstuvwxyzabcdefghijklmnopqrstuvwxyzabcdefghijklmnop"),
  (0x1D492, "qrstuvwxyza"), (0x1D49E, "cd"), (0x1D4A2, "g"), (0x1D4A5, "jk"), (0x1D4A9, "nopq"),
  (0x1D4AE, "stuvwxyzabcd"), (0x1D4BB, "f")]

/-- Runs of characters and how each is spelled, part 4. -/
def letterSpellingsD : List (Nat × String) := [
  (0x1D4BD, "hijklmn"), (0x1D4C5, "pqrstuvwxyzabcdefghijklmnopqrstuvwxyzabcdefghijklmnopqrstuvw"),
  (0x1D501, "xyzab"), (0x1D507, "defg"), (0x1D50D, "jklmnopq"), (0x1D516, "stuvwxy"),
  (0x1D51E, "abcdefghijklmnopqrstuvwxyzab"), (0x1D53B, "defg"), (0x1D540, "ijklm"), (0x1D546, "o"),
  (0x1D54A, "stuvwxy"), (0x1D552, "abcdefghijklmnopqrstuvwxyzabcdefghijklmnopqrstuvwxyzabcdefgh"),
  (0x1D58E, "ijklmnopqrstuvwxyzabcdefghijklmnopqrstuvwxyzabcdefghijklmnop"),
  (0x1D5CA, "qrstuvwxyzabcdefghijklmnopqrstuvwxyzabcdefghijklmnopqrstuvwx"),
  (0x1D606, "yzabcdefghijklmnopqrstuvwxyzabcdefghijklmnopqrstuvwxyzabcdef"),
  (0x1D642, "ghijklmnopqrstuvwxyzabcdefghijklmnopqrstuvwxyzabcdefghijklmn"),
  (0x1D67E, "opqrstuvwxyzabcdefghijklmnopqrstuvwxyzıȷ"),
  (0x1D6A8, "αβγδεζηθικλμνξοπρθστυφχψω∇αβγδεζηθικλμνξοπρσστυφχψω∂εθκφρπαβ"),
  (0x1D6E4, "γδεζηθικλμνξοπρθστυφχψω∇αβγδεζηθικλμνξοπρσστυφχψω∂εθκφρπαβγδ"),
  (0x1D720, "εζηθικλμνξοπρθστυφχψω∇αβγδεζηθικλμνξοπρσστυφχψω∂εθκφρπαβγδεζ"),
  (0x1D75C, "ηθικλμνξοπρθστυφχψω∇αβγδεζηθικλμνξοπρσστυφχψω∂εθκφρπαβγδεζηθ"),
  (0x1D798, "ικλμνξοπρθστυφχψω∇αβγδεζηθικλμνξοπρσστυφχψω∂εθκφρπϝϝ"),
  (0x1D7CE, "01234567890123456789012345678901234567890123456789"),
  (0x1E030, "абвгдежзиклмопрстуфхцчшыэюꚉәіјөүӏабвгдежзиклопсуфхцчшъыґіѕџҫ"), (0x1E06C, "ꙑұ"),
  (0x1E900, "𞤢𞤣𞤤𞤥𞤦𞤧𞤨𞤩𞤪𞤫𞤬𞤭𞤮𞤯𞤰𞤱𞤲𞤳𞤴𞤵𞤶𞤷𞤸𞤹𞤺𞤻𞤼𞤽𞤾𞤿𞥀𞥁𞥂𞥃"), (0x1EE00, "\u0627\u0628\u062c\u062f"),
  (0x1EE05, "\u0648\u0632\u062d\u0637\u064a\u0643\u0644\u0645\u0646\u0633"),
  (0x1EE0F, "\u0639\u0641\u0635\u0642\u0631\u0634\u062a\u062b\u062e\u0630"),
  (0x1EE19, "\u0636\u0638\u063a\u066e\u06ba\u06a1\u066f"), (0x1EE21, "\u0628\u062c"),
  (0x1EE24, "\u0647"), (0x1EE27, "\u062d"),
  (0x1EE29, "\u064a\u0643\u0644\u0645\u0646\u0633\u0639\u0641\u0635\u0642"),
  (0x1EE34, "\u0634\u062a\u062b\u062e"), (0x1EE39, "\u0636"), (0x1EE3B, "\u063a"),
  (0x1EE42, "\u062c"), (0x1EE47, "\u062d"), (0x1EE49, "\u064a"), (0x1EE4B, "\u0644"),
  (0x1EE4D, "\u0646\u0633\u0639"), (0x1EE51, "\u0635\u0642"), (0x1EE54, "\u0634"),
  (0x1EE57, "\u062e"), (0x1EE59, "\u0636"), (0x1EE5B, "\u063a"), (0x1EE5D, "\u06ba"),
  (0x1EE5F, "\u066f"), (0x1EE61, "\u0628\u062c"), (0x1EE64, "\u0647"),
  (0x1EE67, "\u062d\u0637\u064a\u0643"), (0x1EE6C, "\u0645\u0646\u0633\u0639\u0641\u0635\u0642"),
  (0x1EE74, "\u0634\u062a\u062b\u062e"), (0x1EE79, "\u0636\u0638\u063a\u066e"), (0x1EE7E, "\u06a1"),
  (0x1EE80, "\u0627\u0628\u062c\u062f\u0647\u0648\u0632\u062d\u0637\u064a"),
  (0x1EE8B, "\u0644\u0645\u0646\u0633\u0639\u0641\u0635\u0642\u0631\u0634"),
  (0x1EE95, "\u062a\u062b\u062e\u0630\u0636\u0638\u063a"), (0x1EEA1, "\u0628\u062c\u062f"),
  (0x1EEA5, "\u0648\u0632\u062d\u0637\u064a"),
  (0x1EEAB, "\u0644\u0645\u0646\u0633\u0639\u0641\u0635\u0642\u0631\u0634"),
  (0x1EEB5, "\u062a\u062b\u062e\u0630\u0636\u0638\u063a"), (0x1F12B, "cr"),
  (0x1F130, "abcdefghijklmnopqrstuvwxyz"), (0x1F202, "サ"),
  (0x1F210, "手字双デ二多解天交映無料前後再新初終生販声吹演投捕一三遊左中右指走打禁空合満有月申割営配"), (0x1F250, "得可"),
  (0x1FBF0, "0123456789")]

/-- Runs of characters that are spelled with several, part 1. -/
def textSpellingsA : List (Nat × List String) := [
  (0xA8, [" \u0308"]), (0xAF, [" \u0304"]), (0xB4, [" \u0301"]), (0xB8, [" \u0327"]),
  (0xBC, ["1⁄4", "1⁄2", "3⁄4"]), (0x130, ["i\u0307"]), (0x132, ["ij", "ij"]), (0x13F, ["l·", "l·"]),
  (0x149, ["ʼn"]), (0x1C4, ["dž", "dž", "dž", "lj", "lj", "lj", "nj", "nj", "nj"]),
  (0x1F1, ["dz", "dz", "dz"]),
  (0x2D8, [" \u0306", " \u0307", " \u030a", " \u0328", " \u0303", " \u030b"]), (0x37A, [" ι"]),
  (0x384, [" \u0301", " \u0308\u0301"]), (0x587, ["եւ"]),
  (0x675, ["\u0627\u0674", "\u0648\u0674", "\u06c7\u0674", "\u064a\u0674"]), (0xE33, ["\u0e4dา"]),
  (0xEB3, ["\u0ecdາ"]), (0xEDC, ["ຫນ", "ຫມ"]), (0xF77, ["\u0fb2\u0f71\u0f80"]),
  (0xF79, ["\u0fb3\u0f71\u0f80"]), (0x1E9A, ["aʾ"]),
  (0x1F80, ["ἀι", "ἁι", "ἂι", "ἃι", "ἄι", "ἅι", "ἆι", "ἇι", "ἀι", "ἁι", "ἂι", "ἃι", "ἄι", "ἅι",
    "ἆι", "ἇι", "ἠι", "ἡι", "ἢι", "ἣι", "ἤι", "ἥι", "ἦι", "ἧι", "ἠι", "ἡι", "ἢι", "ἣι", "ἤι", "ἥι",
    "ἦι", "ἧι", "ὠι", "ὡι", "ὢι", "ὣι", "ὤι", "ὥι", "ὦι", "ὧι", "ὠι", "ὡι", "ὢι", "ὣι", "ὤι", "ὥι",
    "ὦι", "ὧι"]), (0x1FB2, ["ὰι", "αι", "άι"]), (0x1FB7, ["ᾶι"]), (0x1FBC, ["αι", " \u0313"]),
  (0x1FBF, [" \u0313", " \u0342", " \u0308\u0342", "ὴι", "ηι", "ήι"]), (0x1FC7, ["ῆι"]),
  (0x1FCC, ["ηι", " \u0313\u0300", " \u0313\u0301", " \u0313\u0342"]),
  (0x1FDD, [" \u0314\u0300", " \u0314\u0301", " \u0314\u0342"]),
  (0x1FED, [" \u0308\u0300", " \u0308\u0301"]), (0x1FF2, ["ὼι", "ωι", "ώι"]), (0x1FF7, ["ῶι"]),
  (0x1FFC, ["ωι", " \u0301", " \u0314"]), (0x2017, [" \u0333"]), (0x2033, ["′′", "′′′"]),
  (0x2036, ["‵‵", "‵‵‵"]), (0x203C, ["!!"]), (0x203E, [" \u0305"]), (0x2047, ["??", "?!", "!?"]),
  (0x2057, ["′′′′"]), (0x20A8, ["rs"]), (0x2100, ["a/c", "a/s"]), (0x2103, ["°c"]),
  (0x2105, ["c/o", "c/u"]), (0x2109, ["°f"]), (0x2116, ["no"]), (0x2120, ["sm", "tel", "tm"]),
  (0x213B, ["fax"]),
  (0x2150, ["1⁄7", "1⁄9", "1⁄10", "1⁄3", "2⁄3", "1⁄5", "2⁄5", "3⁄5", "4⁄5", "1⁄6", "5⁄6", "1⁄8",
    "3⁄8", "5⁄8", "7⁄8", "1⁄"]), (0x2161, ["ii", "iii", "iv"]),
  (0x2165, ["vi", "vii", "viii", "ix"]), (0x216A, ["xi", "xii"]), (0x2171, ["ii", "iii", "iv"]),
  (0x2175, ["vi", "vii", "viii", "ix"]), (0x217A, ["xi", "xii"]), (0x2189, ["0⁄3"]),
  (0x222C, ["∫∫", "∫∫∫"]), (0x222F, ["∮∮", "∮∮∮"]),
  (0x2469, ["10", "11", "12", "13", "14", "15", "16", "17", "18", "19", "20", "(1)", "(2)", "(3)",
    "(4)", "(5)", "(6)", "(7)", "(8)", "(9)", "(10)", "(11)", "(12)", "(13)", "(14)", "(15)",
    "(16)", "(17)", "(18)", "(19)", "(20)"]),
  (0x249C, ["(a)", "(b)", "(c)", "(d)", "(e)", "(f)", "(g)", "(h)", "(i)", "(j)", "(k)", "(l)",
    "(m)", "(n)", "(o)", "(p)", "(q)", "(r)", "(s)", "(t)", "(u)", "(v)", "(w)", "(x)", "(y)",
    "(z)"]), (0x2A0C, ["∫∫∫∫"]), (0x2A74, ["::=", "==", "==="]), (0x309B, [" \u3099", " \u309a"]),
  (0x309F, ["より"]), (0x30FF, ["コト"]),
  (0x3200, ["(ᄀ)", "(ᄂ)", "(ᄃ)", "(ᄅ)", "(ᄆ)", "(ᄇ)", "(ᄉ)", "(ᄋ)", "(ᄌ)", "(ᄎ)", "(ᄏ)", "(ᄐ)",
    "(ᄑ)", "(ᄒ)", "(가)", "(나)", "(다)", "(라)", "(마)", "(바)", "(사)", "(아)", "(자)", "(차)", "(카)",
    "(타)", "(파)", "(하)", "(주)", "(오전)", "(오후)"]),
  (0x3220, ["(一)", "(二)", "(三)", "(四)", "(五)", "(六)", "(七)", "(八)", "(九)", "(十)", "(月)", "(火)",
    "(水)", "(木)", "(金)", "(土)", "(日)", "(株)", "(有)", "(社)", "(名)", "(特)", "(財)", "(祝)", "(労)",
    "(代)", "(呼)", "(学)", "(監)", "(企)", "(資)", "(協)", "(祭)", "(休)", "(自)", "(至)"])]

/-- Runs of characters that are spelled with several, part 2. -/
def textSpellingsB : List (Nat × List String) := [
  (0x3250, ["pte", "21", "22", "23", "24", "25", "26", "27", "28", "29", "30", "31", "32", "33",
    "34", "35"]), (0x327C, ["참고", "주의"]),
  (0x32B1, ["36", "37", "38", "39", "40", "41", "42", "43", "44", "45", "46", "47", "48", "49",
    "50", "1月", "2月", "3月", "4月", "5月", "6月", "7月", "8月", "9月", "10月", "11月", "12月", "hg", "erg",
    "ev", "ltd"]),
  (0x32FF, ["令和", "アパート", "アルファ", "アンペア", "アール", "イニング", "インチ", "ウォン", "エスクード", "エーカー", "オンス",
    "オーム", "カイリ", "カラット", "カロリー", "ガロン", "ガンマ", "ギガ", "ギニー", "キュリー", "ギルダー", "キロ", "キログラム",
    "キロメートル", "キロワット", "グラム", "グラムトン", "クルゼイロ", "クローネ", "ケース", "コルナ", "コーポ", "サイクル", "サンチーム",
    "シリング", "センチ", "セント", "ダース", "デシ", "ドル", "トン", "ナノ", "ノット", "ハイツ", "パーセント", "パーツ", "バーレル",
    "ピアストル", "ピクル", "ピコ", "ビル", "ファラッド", "フィート", "ブッシェル", "フラン", "ヘクタール", "ペソ", "ペニヒ", "ヘルツ", "ペンス",
    "ページ", "ベータ", "ポイント", "ボルト", "ホン", "ポンド", "ホール", "ホーン", "マイクロ", "マイル", "マッハ", "マルク", "マンション",
    "ミクロン", "ミリ", "ミリバール", "メガ", "メガトン", "メートル", "ヤード", "ヤール", "ユアン", "リットル", "リラ", "ルピー", "ルーブル",
    "レム", "レントゲン", "ワット", "0点", "1点", "2点", "3点", "4点", "5点", "6点", "7点", "8点", "9点", "10点", "11点",
    "12点", "13点", "14点", "15点", "16点", "17点", "18点", "19点", "20点", "21点", "22点", "23点", "24点",
    "hpa", "da", "au", "bar", "ov", "pc", "dm", "dm2", "dm3", "iu", "平成", "昭和", "大正", "明治", "株式会社",
    "pa", "na", "μa", "ma", "ka", "kb", "mb", "gb", "cal", "kcal", "pf", "nf", "μf", "μg", "mg",
    "kg", "hz", "khz", "mhz", "ghz", "thz", "μl", "ml", "dl", "kl", "fm", "nm", "μm", "mm", "cm",
    "km", "mm2", "cm2", "m2", "km2", "mm3", "cm3", "m3", "km3", "m∕s", "m∕s2", "pa", "kpa", "mpa",
    "gpa", "rad", "rad∕s", "rad∕s2", "ps", "ns", "μs", "ms", "pv", "nv", "μv", "mv", "kv", "mv",
    "pw", "nw", "μw", "mw", "kw", "mw", "kω", "mω"]), (0x33C3, ["bq", "cc", "cd", "c∕kg"]),
  (0x33C8, ["db", "gy", "ha", "hp", "in", "kk", "km", "kt", "lm", "ln", "log", "lx", "mb", "mil",
    "mol", "ph"]),
  (0x33D9, ["ppm", "pr", "sr", "sv", "wb", "v∕m", "a∕m", "1日", "2日", "3日", "4日", "5日", "6日", "7日",
    "8日", "9日", "10日", "11日", "12日", "13日", "14日", "15日", "16日", "17日", "18日", "19日", "20日", "21日",
    "22日", "23日", "24日", "25日", "26日", "27日", "28日", "29日", "30日", "31日", "gal"])]

/-- Runs of characters that are spelled with several, part 3. -/
def textSpellingsC : List (Nat × List String) := [
  (0xFB00, ["ff", "fi", "fl", "ffi", "ffl", "st", "st"]), (0xFB13, ["մն", "մե", "մի", "վն", "մխ"]),
  (0xFB4F, ["\u05d0\u05dc"]), (0xFBDD, ["\u06c7\u0674"]),
  (0xFBEA, ["\u0626\u0627", "\u0626\u0627", "\u0626\u06d5", "\u0626\u06d5", "\u0626\u0648",
    "\u0626\u0648", "\u0626\u06c7", "\u0626\u06c7", "\u0626\u06c6", "\u0626\u06c6", "\u0626\u06c8",
    "\u0626\u06c8", "\u0626\u06d0", "\u0626\u06d0", "\u0626\u06d0", "\u0626\u0649", "\u0626\u0649",
    "\u0626\u0649"]),
  (0xFC00, ["\u0626\u062c", "\u0626\u062d", "\u0626\u0645", "\u0626\u0649", "\u0626\u064a",
    "\u0628\u062c", "\u0628\u062d", "\u0628\u062e", "\u0628\u0645", "\u0628\u0649", "\u0628\u064a",
    "\u062a\u062c", "\u062a\u062d", "\u062a\u062e", "\u062a\u0645", "\u062a\u0649", "\u062a\u064a",
    "\u062b\u062c", "\u062b\u0645", "\u062b\u0649", "\u062b\u064a", "\u062c\u062d", "\u062c\u0645",
    "\u062d\u062c", "\u062d\u0645", "\u062e\u062c", "\u062e\u062d", "\u062e\u0645", "\u0633\u062c",
    "\u0633\u062d", "\u0633\u062e", "\u0633\u0645", "\u0635\u062d", "\u0635\u0645", "\u0636\u062c",
    "\u0636\u062d", "\u0636\u062e", "\u0636\u0645", "\u0637\u062d", "\u0637\u0645", "\u0638\u0645",
    "\u0639\u062c", "\u0639\u0645", "\u063a\u062c", "\u063a\u0645", "\u0641\u062c", "\u0641\u062d",
    "\u0641\u062e", "\u0641\u0645", "\u0641\u0649", "\u0641\u064a", "\u0642\u062d", "\u0642\u0645",
    "\u0642\u0649", "\u0642\u064a", "\u0643\u0627", "\u0643\u062c", "\u0643\u062d", "\u0643\u062e",
    "\u0643\u0644", "\u0643\u0645", "\u0643\u0649", "\u0643\u064a", "\u0644\u062c", "\u0644\u062d",
    "\u0644\u062e", "\u0644\u0645", "\u0644\u0649", "\u0644\u064a", "\u0645\u062c", "\u0645\u062d",
    "\u0645\u062e", "\u0645\u0645", "\u0645\u0649", "\u0645\u064a", "\u0646\u062c", "\u0646\u062d",
    "\u0646\u062e", "\u0646\u0645", "\u0646\u0649", "\u0646\u064a", "\u0647\u062c", "\u0647\u0645",
    "\u0647\u0649", "\u0647\u064a", "\u064a\u062c", "\u064a\u062d", "\u064a\u062e", "\u064a\u0645",
    "\u064a\u0649", "\u064a\u064a", "\u0630\u0670", "\u0631\u0670", "\u0649\u0670", " \u064c\u0651",
    " \u064d\u0651", " \u064e\u0651", " \u064f\u0651", " \u0650\u0651", " \u0651\u0670",
    "\u0626\u0631", "\u0626\u0632", "\u0626\u0645", "\u0626\u0646", "\u0626\u0649", "\u0626\u064a",
    "\u0628\u0631", "\u0628\u0632", "\u0628\u0645", "\u0628\u0646", "\u0628\u0649", "\u0628\u064a",
    "\u062a\u0631", "\u062a\u0632", "\u062a\u0645", "\u062a\u0646", "\u062a\u0649", "\u062a\u064a",
    "\u062b\u0631", "\u062b\u0632", "\u062b\u0645", "\u062b\u0646", "\u062b\u0649", "\u062b\u064a",
    "\u0641\u0649", "\u0641\u064a", "\u0642\u0649", "\u0642\u064a", "\u0643\u0627", "\u0643\u0644",
    "\u0643\u0645", "\u0643\u0649", "\u0643\u064a", "\u0644\u0645", "\u0644\u0649", "\u0644\u064a",
    "\u0645\u0627", "\u0645\u0645", "\u0646\u0631", "\u0646\u0632", "\u0646\u0645", "\u0646\u0646",
    "\u0646\u0649", "\u0646\u064a", "\u0649\u0670", "\u064a\u0631", "\u064a\u0632", "\u064a\u0645",
    "\u064a\u0646", "\u064a\u0649", "\u064a\u064a", "\u0626\u062c", "\u0626\u062d", "\u0626\u062e",
    "\u0626\u0645", "\u0626\u0647", "\u0628\u062c", "\u0628\u062d", "\u0628\u062e", "\u0628\u0645",
    "\u0628\u0647", "\u062a\u062c", "\u062a\u062d", "\u062a\u062e", "\u062a\u0645", "\u062a\u0647",
    "\u062b\u0645", "\u062c\u062d", "\u062c\u0645", "\u062d\u062c", "\u062d\u0645", "\u062e\u062c",
    "\u062e\u0645", "\u0633\u062c", "\u0633\u062d", "\u0633\u062e", "\u0633\u0645", "\u0635\u062d",
    "\u0635\u062e", "\u0635\u0645", "\u0636\u062c", "\u0636\u062d", "\u0636\u062e", "\u0636\u0645",
    "\u0637\u062d", "\u0638\u0645", "\u0639\u062c", "\u0639\u0645", "\u063a\u062c", "\u063a\u0645",
    "\u0641\u062c", "\u0641\u062d", "\u0641\u062e", "\u0641\u0645", "\u0642\u062d", "\u0642\u0645",
    "\u0643\u062c", "\u0643\u062d", "\u0643\u062e", "\u0643\u0644", "\u0643\u0645", "\u0644\u062c",
    "\u0644\u062d", "\u0644\u062e", "\u0644\u0645", "\u0644\u0647", "\u0645\u062c", "\u0645\u062d",
    "\u0645\u062e", "\u0645\u0645", "\u0646\u062c", "\u0646\u062d", "\u0646\u062e", "\u0646\u0645",
    "\u0646\u0647", "\u0647\u062c", "\u0647\u0645", "\u0647\u0670", "\u064a\u062c", "\u064a\u062d",
    "\u064a\u062e", "\u064a\u0645", "\u064a\u0647", "\u0626\u0645", "\u0626\u0647", "\u0628\u0645",
    "\u0628\u0647", "\u062a\u0645", "\u062a\u0647", "\u062b\u0645", "\u062b\u0647", "\u0633\u0645",
    "\u0633\u0647", "\u0634\u0645", "\u0634\u0647", "\u0643\u0644", "\u0643\u0645", "\u0644\u0645",
    "\u0646\u0645", "\u0646\u0647", "\u064a\u0645", "\u064a\u0647", "\u0640\u064e\u0651",
    "\u0640\u064f\u0651", "\u0640\u0650\u0651", "\u0637\u0649", "\u0637\u064a", "\u0639\u0649",
    "\u0639\u064a", "\u063a\u0649", "\u063a\u064a", "\u0633\u0649", "\u0633\u064a", "\u0634\u0649",
    "\u0634\u064a", "\u062d\u0649", "\u062d\u064a", "\u062c\u0649", "\u062c\u064a", "\u062e\u0649",
    "\u062e\u064a", "\u0635\u0649", "\u0635\u064a", "\u0636\u0649", "\u0636\u064a", "\u0634\u062c",
    "\u0634\u062d", "\u0634\u062e", "\u0634\u0645", "\u0634\u0631", "\u0633\u0631", "\u0635\u0631",
    "\u0636\u0631", "\u0637\u0649", "\u0637\u064a", "\u0639\u0649", "\u0639\u064a", "\u063a\u0649",
    "\u063a\u064a", "\u0633\u0649", "\u0633\u064a", "\u0634\u0649", "\u0634\u064a", "\u062d\u0649",
    "\u062d\u064a", "\u062c\u0649", "\u062c\u064a", "\u062e\u0649", "\u062e\u064a", "\u0635\u0649",
    "\u0635\u064a", "\u0636\u0649", "\u0636\u064a", "\u0634\u062c", "\u0634\u062d", "\u0634\u062e",
    "\u0634\u0645", "\u0634\u0631", "\u0633\u0631", "\u0635\u0631", "\u0636\u0631", "\u0634\u062c",
    "\u0634\u062d", "\u0634\u062e", "\u0634\u0645", "\u0633\u0647", "\u0634\u0647", "\u0637\u0645",
    "\u0633\u062c", "\u0633\u062d", "\u0633\u062e", "\u0634\u062c", "\u0634\u062d", "\u0634\u062e",
    "\u0637\u0645", "\u0638\u0645", "\u0627\u064b", "\u0627\u064b"])]

/-- Runs of characters that are spelled with several, part 4. -/
def textSpellingsD : List (Nat × List String) := [
  (0xFD50, ["\u062a\u062c\u0645", "\u062a\u062d\u062c", "\u062a\u062d\u062c", "\u062a\u062d\u0645",
    "\u062a\u062e\u0645", "\u062a\u0645\u062c", "\u062a\u0645\u062d", "\u062a\u0645\u062e",
    "\u062c\u0645\u062d", "\u062c\u0645\u062d", "\u062d\u0645\u064a", "\u062d\u0645\u0649",
    "\u0633\u062d\u062c", "\u0633\u062c\u062d", "\u0633\u062c\u0649", "\u0633\u0645\u062d",
    "\u0633\u0645\u062d", "\u0633\u0645\u062c", "\u0633\u0645\u0645", "\u0633\u0645\u0645",
    "\u0635\u062d\u062d", "\u0635\u062d\u062d", "\u0635\u0645\u0645", "\u0634\u062d\u0645",
    "\u0634\u062d\u0645", "\u0634\u062c\u064a", "\u0634\u0645\u062e", "\u0634\u0645\u062e",
    "\u0634\u0645\u0645", "\u0634\u0645\u0645", "\u0636\u062d\u0649", "\u0636\u062e\u0645",
    "\u0636\u062e\u0645", "\u0637\u0645\u062d", "\u0637\u0645\u062d", "\u0637\u0645\u0645",
    "\u0637\u0645\u064a", "\u0639\u062c\u0645", "\u0639\u0645\u0645", "\u0639\u0645\u0645",
    "\u0639\u0645\u0649", "\u063a\u0645\u0645", "\u063a\u0645\u064a", "\u063a\u0645\u0649",
    "\u0641\u062e\u0645", "\u0641\u062e\u0645", "\u0642\u0645\u062d", "\u0642\u0645\u0645",
    "\u0644\u062d\u0645", "\u0644\u062d\u064a", "\u0644\u062d\u0649", "\u0644\u062c\u062c",
    "\u0644\u062c\u062c", "\u0644\u062e\u0645", "\u0644\u062e\u0645", "\u0644\u0645\u062d",
    "\u0644\u0645\u062d", "\u0645\u062d\u062c", "\u0645\u062d\u0645", "\u0645\u062d\u064a",
    "\u0645\u062c\u062d", "\u0645\u062c\u0645", "\u0645\u062e\u062c", "\u0645\u062e\u0645"]),
  (0xFD92, ["\u0645\u062c\u062e", "\u0647\u0645\u062c", "\u0647\u0645\u0645", "\u0646\u062d\u0645",
    "\u0646\u062d\u0649", "\u0646\u062c\u0645", "\u0646\u062c\u0645", "\u0646\u062c\u0649",
    "\u0646\u0645\u064a", "\u0646\u0645\u0649", "\u064a\u0645\u0645", "\u064a\u0645\u0645",
    "\u0628\u062e\u064a", "\u062a\u062c\u064a", "\u062a\u062c\u0649", "\u062a\u062e\u064a",
    "\u062a\u062e\u0649", "\u062a\u0645\u064a", "\u062a\u0645\u0649", "\u062c\u0645\u064a",
    "\u062c\u062d\u0649", "\u062c\u0645\u0649", "\u0633\u062e\u0649", "\u0635\u062d\u064a",
    "\u0634\u062d\u064a", "\u0636\u062d\u064a", "\u0644\u062c\u064a", "\u0644\u0645\u064a",
    "\u064a\u062d\u064a", "\u064a\u062c\u064a", "\u064a\u0645\u064a", "\u0645\u0645\u064a",
    "\u0642\u0645\u064a", "\u0646\u062d\u064a", "\u0642\u0645\u062d", "\u0644\u062d\u0645",
    "\u0639\u0645\u064a", "\u0643\u0645\u064a", "\u0646\u062c\u062d", "\u0645\u062e\u064a",
    "\u0644\u062c\u0645", "\u0643\u0645\u0645", "\u0644\u062c\u0645", "\u0646\u062c\u062d",
    "\u062c\u062d\u064a", "\u062d\u062c\u064a", "\u0645\u062c\u064a", "\u0641\u0645\u064a",
    "\u0628\u062d\u064a", "\u0643\u0645\u0645", "\u0639\u062c\u0645", "\u0635\u0645\u0645",
    "\u0633\u062e\u064a", "\u0646\u062c\u064a"]),
  (0xFDF0, ["\u0635\u0644\u06d2", "\u0642\u0644\u06d2", "\u0627\u0644\u0644\u0647",
    "\u0627\u0643\u0628\u0631", "\u0645\u062d\u0645\u062f", "\u0635\u0644\u0639\u0645",
    "\u0631\u0633\u0648\u0644", "\u0639\u0644\u064a\u0647", "\u0648\u0633\u0644\u0645",
    "\u0635\u0644\u0649",
    "\u0635\u0644\u0649 \u0627\u0644\u0644\u0647 \u0639\u0644\u064a\u0647 \u0648\u0633\u0644\u0645",
    "\u062c\u0644 \u062c\u0644\u0627\u0644\u0647", "\u0631\u06cc\u0627\u0644"]),
  (0xFE49, [" \u0305", " \u0305", " \u0305", " \u0305"]),
  (0xFE70, [" \u064b", "\u0640\u064b", " \u064c"]), (0xFE74, [" \u064d"]),
  (0xFE76, [" \u064e", "\u0640\u064e", " \u064f", "\u0640\u064f", " \u0650", "\u0640\u0650",
    " \u0651", "\u0640\u0651", " \u0652", "\u0640\u0652"]),
  (0xFEF5, ["\u0644\u0622", "\u0644\u0622", "\u0644\u0623", "\u0644\u0623", "\u0644\u0625",
    "\u0644\u0625", "\u0644\u0627", "\u0644\u0627"]), (0xFFE3, [" \u0304"]),
  (0x1F101, ["0,", "1,", "2,", "3,", "4,", "5,", "6,", "7,", "8,", "9,"]),
  (0x1F110, ["(a)", "(b)", "(c)", "(d)", "(e)", "(f)", "(g)", "(h)", "(i)", "(j)", "(k)", "(l)",
    "(m)", "(n)", "(o)", "(p)", "(q)", "(r)", "(s)", "(t)", "(u)", "(v)", "(w)", "(x)", "(y)",
    "(z)", "〔s〕"]), (0x1F12D, ["cd", "wz"]), (0x1F14A, ["hv", "mv", "sd", "ss", "ppv", "wc"]),
  (0x1F16A, ["mc", "md", "mr"]), (0x1F190, ["dj"]), (0x1F200, ["ほか", "ココ"]),
  (0x1F240, ["〔本〕", "〔三〕", "〔二〕", "〔安〕", "〔点〕", "〔打〕", "〔盗〕", "〔勝〕", "〔敗〕"])]

/-- Ranges of characters that do not count. -/
def ignoredRanges : List (Nat × Nat) := [
  (0xAD, 0xAD), (0x34F, 0x34F), (0x115F, 0x1160), (0x17B4, 0x17B5), (0x180B, 0x180F),
  (0x200B, 0x200B), (0x2060, 0x2064), (0x206A, 0x206F), (0x3164, 0x3164), (0xFE00, 0xFE0F),
  (0xFEFF, 0xFEFF), (0xFFA0, 0xFFA0), (0x1BCA0, 0x1BCA3), (0x1D173, 0x1D17A), (0xE0100, 0xE01EF)]

/-- All characters that are spelled with several. -/
def textSpellings : List (Nat × List String) :=
  textSpellingsA ++ textSpellingsB ++ textSpellingsC ++ textSpellingsD

/-- All characters that are spelled with one, some of them with themselves. -/
def letterSpellings : List (Nat × String) :=
  letterSpellingsA ++ letterSpellingsB ++ letterSpellingsC ++ letterSpellingsD

/-- How a character is spelled, unless no name holds it. -/
def spelling? (c : Char) : Option (List Char) :=
  let n := c.toNat
  if Text.inRanges ignoredRanges n then some []
  else if isRefused c then none
  else match Text.entry? textSpellings n with
    | some text => some text.toList
    | none => some [(Text.letter? letterSpellings n).getD c]

end DashboardClient.DomainName
