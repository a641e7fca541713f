import AppLinks.Text.CaseFold
import AppLinks.Text.CodeRanges

/-!
# Characters of domain names

What becomes of a character in a domain name: it is dropped, replaced by a letter or by a
spelling, kept, or refused. The tables are asked in this order, so `kept` may run over characters
that an earlier one holds.
-/

namespace AppLinks.DomainTable

def dropped : CodeRanges :=
  [(0xad, 0xad), (0x34f, 0x34f), (0x115f, 0x1160), (0x17b4, 0x17b5), (0x180b, 0x180f),
   (0x200b, 0x200b), (0x2060, 0x2064), (0x206a, 0x206f), (0x3164, 0x3164), (0xfe00, 0xfe0f),
   (0xfeff, 0xfeff), (0xffa0, 0xffa0), (0x1bca0, 0x1bca3), (0x1d173, 0x1d17a), (0xe0100, 0xe01ef)]

/-- Replaced by the letter some way on. -/
def shifted : List Text.FoldRange :=
  [⟨0x41, 0x5a, 1, 32⟩, ⟨0xc0, 0xd6, 1, 32⟩, ⟨0xd8, 0xde, 1, 32⟩, ⟨0x100, 0x12e, 2, 1⟩,
   ⟨0x139, 0x13d, 2, 1⟩, ⟨0x141, 0x147, 2, 1⟩, ⟨0x14a, 0x176, 2, 1⟩, ⟨0x179, 0x17d, 2, 1⟩,
   ⟨0x1a0, 0x1a4, 2, 1⟩, ⟨0x1cd, 0x1db, 2, 1⟩, ⟨0x1de, 0x1ee, 2, 1⟩, ⟨0x1f8, 0x21e, 2, 1⟩,
   ⟨0x222, 0x232, 2, 1⟩, ⟨0x246, 0x24e, 2, 1⟩, ⟨0x388, 0x38a, 1, 37⟩, ⟨0x391, 0x3a1, 1, 32⟩,
   ⟨0x3a3, 0x3ab, 1, 32⟩, ⟨0x3d8, 0x3ee, 2, 1⟩, ⟨0x3fd, 0x3ff, 1, -130⟩, ⟨0x400, 0x40f, 1, 80⟩,
   ⟨0x410, 0x42f, 1, 32⟩, ⟨0x460, 0x480, 2, 1⟩, ⟨0x48a, 0x4be, 2, 1⟩, ⟨0x4c1, 0x4cd, 2, 1⟩,
   ⟨0x4d0, 0x52e, 2, 1⟩, ⟨0x531, 0x556, 1, 48⟩, ⟨0x10a0, 0x10c5, 1, 7264⟩,
   ⟨0x13f8, 0x13fd, 1, -8⟩, ⟨0x1c90, 0x1cba, 1, -3008⟩, ⟨0x1cbd, 0x1cbf, 1, -3008⟩,
   ⟨0x1d31, 0x1d39, 2, -7372⟩, ⟨0x1d34, 0x1d3a, 2, -7372⟩, ⟨0x1d5d, 0x1d5f, 1, -6571⟩,
   ⟨0x1da4, 0x1da6, 1, -6972⟩, ⟨0x1dae, 0x1db1, 1, -6972⟩, ⟨0x1dbc, 0x1dbe, 1, -6956⟩,
   ⟨0x1e00, 0x1e94, 2, 1⟩, ⟨0x1ea0, 0x1efe, 2, 1⟩, ⟨0x1f08, 0x1f0f, 1, -8⟩,
   ⟨0x1f18, 0x1f1d, 1, -8⟩, ⟨0x1f28, 0x1f2f, 1, -8⟩, ⟨0x1f38, 0x1f3f, 1, -8⟩,
   ⟨0x1f48, 0x1f4d, 1, -8⟩, ⟨0x1f59, 0x1f5f, 2, -8⟩, ⟨0x1f68, 0x1f6f, 1, -8⟩,
   ⟨0x2074, 0x2079, 1, -8256⟩, ⟨0x2080, 0x2089, 1, -8272⟩, ⟨0x2096, 0x2099, 1, -8235⟩,
   ⟨0x2119, 0x211b, 1, -8361⟩, ⟨0x2135, 0x2138, 1, -7013⟩, ⟨0x2460, 0x2468, 1, -9263⟩,
   ⟨0x24b6, 0x24cf, 1, -9301⟩, ⟨0x24d0, 0x24e9, 1, -9327⟩, ⟨0x2c00, 0x2c2f, 1, 48⟩,
   ⟨0x2c67, 0x2c6b, 2, 1⟩, ⟨0x2c80, 0x2ce2, 2, 1⟩, ⟨0x3137, 0x3139, 1, -8244⟩,
   ⟨0x313a, 0x313f, 1, -8074⟩, ⟨0x3141, 0x3143, 1, -8251⟩, ⟨0x3145, 0x314e, 1, -8252⟩,
   ⟨0x314f, 0x3163, 1, -8174⟩, ⟨0x3178, 0x317c, 1, -8269⟩, ⟨0x3184, 0x3186, 1, -8237⟩,
   ⟨0x3263, 0x3265, 1, -8542⟩, ⟨0x3269, 0x326d, 1, -8539⟩, ⟨0x32e4, 0x32e9, 1, -538⟩,
   ⟨0x32ee, 0x32f2, 1, -528⟩, ⟨0x32f5, 0x32fa, 1, -525⟩, ⟨0x32fb, 0x32fe, 1, -524⟩,
   ⟨0xa640, 0xa66c, 2, 1⟩, ⟨0xa680, 0xa69a, 2, 1⟩, ⟨0xa722, 0xa72e, 2, 1⟩, ⟨0xa732, 0xa76e, 2, 1⟩,
   ⟨0xa77e, 0xa786, 2, 1⟩, ⟨0xa796, 0xa7a8, 2, 1⟩, ⟨0xa7b4, 0xa7c2, 2, 1⟩, ⟨0xa7cc, 0xa7da, 2, 1⟩,
   ⟨0xab70, 0xabbf, 1, -38864⟩, ⟨0xfb24, 0xfb26, 1, -62793⟩, ⟨0xfe41, 0xfe44, 1, -52789⟩,
   ⟨0xff01, 0xff20, 1, -65248⟩, ⟨0xff21, 0xff3a, 1, -65216⟩, ⟨0xff3b, 0xff5e, 1, -65248⟩,
   ⟨0xff85, 0xff8a, 1, -52923⟩, ⟨0xff8f, 0xff93, 1, -52913⟩, ⟨0xff96, 0xff9b, 1, -52910⟩,
   ⟨0xffa7, 0xffa9, 1, -61092⟩, ⟨0xffaa, 0xffaf, 1, -60922⟩, ⟨0xffb1, 0xffb3, 1, -61099⟩,
   ⟨0xffb5, 0xffbe, 1, -61100⟩, ⟨0xffc2, 0xffc7, 1, -61025⟩, ⟨0xffca, 0xffcf, 1, -61027⟩,
   ⟨0xffd2, 0xffd7, 1, -61029⟩, ⟨0xffda, 0xffdc, 1, -61031⟩, ⟨0xffe9, 0xffec, 1, -56921⟩,
   ⟨0x10400, 0x10427, 1, 40⟩, ⟨0x104b0, 0x104d3, 1, 40⟩, ⟨0x10570, 0x10594, 2, 39⟩,
   ⟨0x10571, 0x10579, 2, 39⟩, ⟨0x1057d, 0x10589, 2, 39⟩, ⟨0x1058d, 0x10591, 2, 39⟩,
   ⟨0x107b6, 0x107b8, 1, -67062⟩, ⟨0x10c80, 0x10cb2, 1, 64⟩, ⟨0x10d50, 0x10d65, 1, 32⟩,
   ⟨0x118a0, 0x118bf, 1, 32⟩, ⟨0x16e40, 0x16e5f, 1, 32⟩, ⟨0x16ea0, 0x16eb8, 1, 27⟩,
   ⟨0x1ccd6, 0x1ccef, 1, -117877⟩, ⟨0x1ccf0, 0x1ccf9, 1, -117952⟩, ⟨0x1d400, 0x1d419, 1, -119711⟩,
   ⟨0x1d41a, 0x1d433, 1, -119737⟩, ⟨0x1d434, 0x1d44d, 1, -119763⟩, ⟨0x1d44e, 0x1d466, 2, -119789⟩,
   ⟨0x1d44f, 0x1d453, 2, -119789⟩, ⟨0x1d457, 0x1d467, 2, -119789⟩, ⟨0x1d468, 0x1d481, 1, -119815⟩,
   ⟨0x1d482, 0x1d49b, 1, -119841⟩, ⟨0x1d4a9, 0x1d4ac, 1, -119867⟩, ⟨0x1d4ae, 0x1d4b5, 1, -119867⟩,
   ⟨0x1d4b6, 0x1d4b9, 1, -119893⟩, ⟨0x1d4bb, 0x1d4cf, 2, -119893⟩, ⟨0x1d4be, 0x1d4c2, 2, -119893⟩,
   ⟨0x1d4c6, 0x1d4ce, 2, -119893⟩, ⟨0x1d4d0, 0x1d4e9, 1, -119919⟩, ⟨0x1d4ea, 0x1d503, 1, -119945⟩,
   ⟨0x1d505, 0x1d509, 2, -119971⟩, ⟨0x1d50d, 0x1d514, 1, -119971⟩, ⟨0x1d516, 0x1d51c, 1, -119971⟩,
   ⟨0x1d51e, 0x1d537, 1, -119997⟩, ⟨0x1d539, 0x1d53d, 2, -120023⟩, ⟨0x1d53c, 0x1d546, 2, -120023⟩,
   ⟨0x1d54a, 0x1d550, 1, -120023⟩, ⟨0x1d552, 0x1d56b, 1, -120049⟩, ⟨0x1d56c, 0x1d585, 1, -120075⟩,
   ⟨0x1d586, 0x1d59f, 1, -120101⟩, ⟨0x1d5a0, 0x1d5b9, 1, -120127⟩, ⟨0x1d5ba, 0x1d5d3, 1, -120153⟩,
   ⟨0x1d5d4, 0x1d5ed, 1, -120179⟩, ⟨0x1d5ee, 0x1d607, 1, -120205⟩, ⟨0x1d608, 0x1d621, 1, -120231⟩,
   ⟨0x1d622, 0x1d63b, 1, -120257⟩, ⟨0x1d63c, 0x1d655, 1, -120283⟩, ⟨0x1d656, 0x1d66f, 1, -120309⟩,
   ⟨0x1d670, 0x1d689, 1, -120335⟩, ⟨0x1d68a, 0x1d6a3, 1, -120361⟩, ⟨0x1d6a8, 0x1d6b8, 1, -119543⟩,
   ⟨0x1d6ba, 0x1d6c0, 1, -119543⟩, ⟨0x1d6c2, 0x1d6d2, 1, -119569⟩, ⟨0x1d6d4, 0x1d6da, 1, -119569⟩,
   ⟨0x1d6e2, 0x1d6f2, 1, -119601⟩, ⟨0x1d6f4, 0x1d6fa, 1, -119601⟩, ⟨0x1d6fc, 0x1d70c, 1, -119627⟩,
   ⟨0x1d70e, 0x1d714, 1, -119627⟩, ⟨0x1d71c, 0x1d72c, 1, -119659⟩, ⟨0x1d72e, 0x1d734, 1, -119659⟩,
   ⟨0x1d736, 0x1d746, 1, -119685⟩, ⟨0x1d748, 0x1d74e, 1, -119685⟩, ⟨0x1d756, 0x1d766, 1, -119717⟩,
   ⟨0x1d768, 0x1d76e, 1, -119717⟩, ⟨0x1d770, 0x1d780, 1, -119743⟩, ⟨0x1d782, 0x1d788, 1, -119743⟩,
   ⟨0x1d790, 0x1d7a0, 1, -119775⟩, ⟨0x1d7a2, 0x1d7a8, 1, -119775⟩, ⟨0x1d7aa, 0x1d7ba, 1, -119801⟩,
   ⟨0x1d7bc, 0x1d7c2, 1, -119801⟩, ⟨0x1d7ce, 0x1d7d7, 1, -120734⟩, ⟨0x1d7d8, 0x1d7e1, 1, -120744⟩,
   ⟨0x1d7e2, 0x1d7eb, 1, -120754⟩, ⟨0x1d7ec, 0x1d7f5, 1, -120764⟩, ⟨0x1d7f6, 0x1d7ff, 1, -120774⟩,
   ⟨0x1e030, 0x1e038, 1, -121856⟩, ⟨0x1e039, 0x1e03b, 1, -121855⟩, ⟨0x1e03c, 0x1e046, 1, -121854⟩,
   ⟨0x1e051, 0x1e059, 1, -121889⟩, ⟨0x1e05f, 0x1e064, 1, -121884⟩, ⟨0x1e900, 0x1e921, 1, 34⟩,
   ⟨0x1ee0a, 0x1ee0d, 1, -124871⟩, ⟨0x1ee2a, 0x1ee2d, 1, -124903⟩, ⟨0x1ee8b, 0x1ee8d, 1, -124999⟩,
   ⟨0x1eeab, 0x1eead, 1, -125031⟩, ⟨0x1f130, 0x1f149, 1, -127183⟩, ⟨0x1fbf0, 0x1fbf9, 1, -129984⟩]

/-- From a first character on, what each is replaced by. -/
def replaced : List (Nat × String) :=
  [(0xa0, " "), (0xaa, "a"), (0xb2, "23"), (0xb5, "μ"), (0xb9, "1o"), (0x134, "ĵ"), (0x136, "ķ"),
   (0x178, "ÿ"), (0x17f, "s"), (0x181, "ɓƃ"), (0x184, "ƅ"), (0x186, "ɔƈ"), (0x189, "ɖɗƌ"),
   (0x18e, "ǝəɛƒ"), (0x193, "ɠɣ"), (0x196, "ɩɨƙ"), (0x19c, "ɯɲ"), (0x19f, "ɵ"), (0x1a6, "ʀƨ"),
   (0x1a9, "ʃ"), (0x1ac, "ƭ"), (0x1ae, "ʈư"), (0x1b1, "ʊʋƴ"), (0x1b5, "ƶ"), (0x1b7, "ʒƹ"),
   (0x1bc, "ƽ"), (0x1f4, "ǵ"), (0x1f6, "ƕƿ"), (0x220, "ƞ"), (0x23a, "ⱥȼ"), (0x23d, "ƚⱦ"),
   (0x241, "ɂ"), (0x243, "ƀʉʌ"), (0x2b0, "hɦjrɹɻʁwy"), (0x2e0, "ɣlsxʕ"), (0x340, "̀́"),
   (0x343, "̓"), (0x345, "ι"), (0x370, "ͱ"), (0x372, "ͳ"), (0x374, "ʹ"), (0x376, "ͷ"),
   (0x37e, ";ϳ"), (0x386, "ά·"), (0x38c, "ό"), (0x38e, "ύώ"), (0x3cf, "ϗβθυύϋφπ"), (0x3f0, "κρσ"),
   (0x3f4, "θε"), (0x3f7, "ϸ"), (0x3f9, "σϻ"), (0x4c0, "ӏ"), (0xf0c, "་"), (0x10c7, "ⴧ"),
   (0x10cd, "ⴭ"), (0x10fc, "ნ"), (0x1c80, "вдосттъѣꙋᲊ"), (0x1d2c, "aæb"), (0x1d30, "d"),
   (0x1d32, "ǝ"), (0x1d3c, "oȣprtuwaɐɑᴂbdeəɛɜg"), (0x1d4f, "kmŋoɔᴖᴗptuᴝɯvᴥ"),
   (0x1d60, "φχiruvβγρφχ"), (0x1d78, "н"), (0x1d9b, "ɒcɕðɜfɟɡɥ"), (0x1da7, "ᵻʝɭᶅʟɱɰ"),
   (0x1db2, "ɸʂʃƫʉʊᴜʋʌz"), (0x1dbf, "θ"), (0x1e9b, "ṡ"), (0x1e9e, "ß"), (0x1f71, "ά"),
   (0x1f73, "έ"), (0x1f75, "ή"), (0x1f77, "ί"), (0x1f79, "ό"), (0x1f7b, "ύ"), (0x1f7d, "ώ"),
   (0x1fb8, "ᾰᾱὰά"), (0x1fbe, "ι"), (0x1fc8, "ὲέὴή"), (0x1fd3, "ΐ"), (0x1fd8, "ῐῑὶί"),
   (0x1fe3, "ΰ"), (0x1fe8, "ῠῡὺύῥ"), (0x1fef, "`"), (0x1ff8, "ὸόὼώ"), (0x2000, "           "),
   (0x2011, "‐"), (0x202f, " "), (0x205f, " "), (0x2070, "0i"), (0x207a, "+−=()n"),
   (0x208a, "+−=()"), (0x2090, "aeoxəh"), (0x209a, "pst"), (0x2102, "c"), (0x2107, "ɛ"),
   (0x210a, "ghhhhħiill"), (0x2115, "n"), (0x211c, "rr"), (0x2124, "z"), (0x2126, "ω"),
   (0x2128, "z"), (0x212a, "kåbc"), (0x212f, "eefⅎmo"), (0x2139, "i"), (0x213c, "πγγπ∑"),
   (0x2145, "ddeij"), (0x2160, "i"), (0x2164, "v"), (0x2169, "x"), (0x216c, "lcdmi"),
   (0x2174, "v"), (0x2179, "x"), (0x217c, "lcdm"), (0x2183, "ↄ"), (0x2329, "〈〉"), (0x24ea, "0"),
   (0x2c60, "ⱡ"), (0x2c62, "ɫᵽɽ"), (0x2c6d, "ɑɱɐɒ"), (0x2c72, "ⱳ"), (0x2c75, "ⱶ"),
   (0x2c7c, "jvȿɀ"), (0x2ceb, "ⳬ"), (0x2ced, "ⳮ"), (0x2cf2, "ⳳ"), (0x2d6f, "ⵡ"), (0x2e9f, "母"),
   (0x2ef3, "龟"), (0x2f00, "一丨丶丿乙亅二亠人儿入八冂冖冫几凵刀力勹匕匚匸十卜卩厂厶又口囗土士夂夊夕大女子宀"),
   (0x2f28, "寸小尢尸屮山巛工己巾干幺广廴廾弋弓彐彡彳心戈戶手支攴文斗斤方无日曰月木欠止歹殳毋"),
   (0x2f50, "比毛氏气水火爪父爻爿片牙牛犬玄玉瓜瓦甘生用田疋疒癶白皮皿目矛矢石示禸禾穴立竹米糸"),
   (0x2f78, "缶网羊羽老而耒耳聿肉臣自至臼舌舛舟艮色艸虍虫血行衣襾見角言谷豆豕豸貝赤走足身車辛"),
   (0x2fa0, "辰辵邑酉釆里金長門阜隶隹雨靑非面革韋韭音頁風飛食首香馬骨高髟鬥鬯鬲鬼魚鳥鹵鹿麥麻"), (0x2fc8, "黃黍黑黹黽鼎鼓鼠鼻齊齒龍龜龠"),
   (0x3000, " "), (0x3002, "."), (0x3036, "〒"), (0x3038, "十卄卅"), (0x3131, "ᄀᄁᆪᄂᆬᆭ"),
   (0x3140, "ᄚ"), (0x3144, "ᄡ"), (0x3165, "ᄔᄕᇇᇈᇌᇎᇓᇗᇙᄜᇝᇟᄝᄞᄠᄢᄣᄧᄩ"), (0x317d, "ᄲᄶᅀᅇᅌᇱᇲ"),
   (0x3187, "ᆄᆅᆈᆑᆒᆔᆞᆡ"), (0x3192, "一二三四上中下甲乙丙丁天地人"), (0x3244, "問幼文箏"), (0x3260, "ᄀᄂᄃ"),
   (0x3266, "ᄉᄋᄌ"), (0x326e, "가나다라마바사아자차카타파하"), (0x327e, "우"),
   (0x3280, "一二三四五六七八九十月火水木金土日株有社名特財祝労秘男女適優印注項休写正上中下左"), (0x32a8, "右医宗学監企資協夜"),
   (0x32d0, "アイウエオカキクケコサシスセソタチツテト"), (0x32ea, "ヒフヘホ"), (0x32f3, "ヤユ"), (0xa69c, "ъь"),
   (0xa770, "ꝯ"), (0xa779, "ꝺ"), (0xa77b, "ꝼ"), (0xa77d, "ᵹ"), (0xa78b, "ꞌ"), (0xa78d, "ɥ"),
   (0xa790, "ꞑ"), (0xa792, "ꞓ"), (0xa7aa, "ɦɜɡɬɪ"), (0xa7b0, "ʞʇʝꭓ"), (0xa7c4, "ꞔʂᶎꟈ"),
   (0xa7c9, "ꟊ"), (0xa7cb, "ɤ"), (0xa7dc, "ƛ"), (0xa7f1, "scfqꟶ"), (0xa7f8, "ħœ"),
   (0xab5c, "ꜧꬷɫꭒ"), (0xab69, "ʍ"), (0xf900, "豈更車賈滑串句龜龜契金喇奈懶癩羅蘿螺裸邏樂洛烙珞落酪駱亂卵欄爛蘭鸞嵐濫藍襤拉臘蠟"),
   (0xf928, "廊朗浪狼郎來冷勞擄櫓爐盧老蘆虜路露魯鷺碌祿綠菉錄鹿論壟弄籠聾牢磊賂雷壘屢樓淚漏累"),
   (0xf950, "縷陋勒肋凜凌稜綾菱陵讀拏樂諾丹寧怒率異北磻便復不泌數索參塞省葉說殺辰沈拾若掠略亮"),
   (0xf978, "兩凉梁糧良諒量勵呂女廬旅濾礪閭驪麗黎力曆歷轢年憐戀撚漣煉璉秊練聯輦蓮連鍊列劣咽烈"),
   (0xf9a0, "裂說廉念捻殮簾獵令囹寧嶺怜玲瑩羚聆鈴零靈領例禮醴隸惡了僚寮尿料樂燎療蓼遼龍暈阮劉"),
   (0xf9c8, "杻柳流溜琉留硫紐類六戮陸倫崙淪輪律慄栗率隆利吏履易李梨泥理痢罹裏裡里離匿溺吝燐璘"),
   (0xf9f0, "藺隣鱗麟林淋臨立笠粒狀炙識什茶刺切度拓糖宅洞暴輻行降見廓兀嗀"), (0xfa10, "塚"), (0xfa12, "晴"),
   (0xfa15, "凞猪益礼神祥福靖精羽"), (0xfa20, "蘒"), (0xfa22, "諸"), (0xfa25, "逸都"),
   (0xfa2a, "飯飼館鶴郞隷侮僧免勉勤卑喝嘆器塀墨層屮悔慨憎懲敏既暑梅海渚漢煮爫琢碑社祉祈祐祖祝"), (0xfa52, "禍禎穀突節練縉繁署者臭艹艹著褐視謁謹賓贈辶逸難響頻恵𤋮舘"),
   (0xfa70, "並况全侀充冀勇勺喝啕喙嗢塚墳奄奔婢嬨廒廙彩徭惘慎愈憎慠懲戴揄搜摒敖晴朗望杖歹殺流"),
   (0xfa98, "滛滋漢瀞煮瞧爵犯猪瑱甆画瘝瘟益盛直睊着磌窱節类絛練缾者荒華蝹襁覆視調諸請謁諾諭謹"), (0xfac0, "變贈輸遲醙鉶陼難靖韛響頋頻鬒龜𢡊𢡄𣏕㮝䀘䀹𥉉𥳐𧻓齃龎"),
   (0xfb20, "עאדה"), (0xfb27, "רת+"), (0xfb50, "ٱٱٻٻٻٻپپپپڀڀڀڀٺٺٺٺٿٿٿٿٹٹٹٹڤڤڤڤڦڦڦڦڄڄڄڄڃڃ"),
   (0xfb78, "ڃڃچچچچڇڇڇڇڍڍڌڌڎڎڈڈژژڑڑککککگگگگڳڳڳڳڱڱڱڱںں"), (0xfba0, "ڻڻڻڻۀۀہہہہھھھھےےۓۓ"),
   (0xfbd3, "ڭڭڭڭۇۇۆۆۈۈ"), (0xfbde, "ۋۋۅۅۉۉېېېېىى"), (0xfbfc, "یییی"), (0xfe10, ",、"),
   (0xfe13, ":;!?〖〗"), (0xfe31, "—–__()\x7b\x7d〔〕【】《》〈〉"), (0xfe47, "[]"), (0xfe4d, "___,、"),
   (0xfe54, ";:?!—()\x7b\x7d〔〕#&*+-<>="), (0xfe68, "\\$%@"),
   (0xfe80, "ءآآأأؤؤإإئئئئااببببةةتتتتثثثثججججححححخخخ"),
   (0xfea8, "خددذذررززسسسسششششصصصصضضضضططططظظظظععععغغغ"),
   (0xfed0, "غففففققققككككللللممممننننههههووىىيييي"),
   (0xff5f, "⦅⦆.「」、・ヲァィゥェォャュョッーアイウエオカキクケコサシスセソタチツテト"), (0xff8b, "ヒフヘホ"), (0xff94, "ヤユ"),
   (0xff9c, "ワン゙゚"), (0xffa1, "ᄀᄁᆪᄂᆬᆭ"), (0xffb0, "ᄚ"), (0xffb4, "ᄡ"), (0xffe0, "¢£¬"),
   (0xffe4, "¦¥₩"), (0xffe8, "│"), (0xffed, "■○"), (0x10595, "𐖼"), (0x10781, "ːˑæʙɓ"),
   (0x10787, "ʣꭦʥʤɖɗᶑɘɞʩɤɢɠʛħʜɧʄʪʫɬ𝼄ꞎɮ𝼅ʎ𝼆øɶɷqɺ𝼈ɽɾʀʨʦꭧʧ"), (0x107af, "ʈⱱ"), (0x107b2, "ʏʡʢʘ"),
   (0x107b9, "𝼊𝼞"), (0x1d49c, "a"), (0x1d49e, "cd"), (0x1d4a2, "g"), (0x1d4a5, "jk"),
   (0x1d504, "a"), (0x1d508, "e"), (0x1d50a, "g"), (0x1d538, "a"), (0x1d541, "j"), (0x1d543, "l"),
   (0x1d6a4, "ıȷ"), (0x1d6b9, "θ"), (0x1d6c1, "∇"), (0x1d6d3, "σ"), (0x1d6db, "∂εθκφρπ"),
   (0x1d6f3, "θ"), (0x1d6fb, "∇"), (0x1d70d, "σ"), (0x1d715, "∂εθκφρπ"), (0x1d72d, "θ"),
   (0x1d735, "∇"), (0x1d747, "σ"), (0x1d74f, "∂εθκφρπ"), (0x1d767, "θ"), (0x1d76f, "∇"),
   (0x1d781, "σ"), (0x1d789, "∂εθκφρπ"), (0x1d7a1, "θ"), (0x1d7a9, "∇"), (0x1d7bb, "σ"),
   (0x1d7c3, "∂εθκφρπϝϝ"), (0x1e047, "ыэюꚉәіјөүӏ"), (0x1e05a, "клопс"), (0x1e065, "ъыґіѕџҫꙑұ"),
   (0x1ee00, "ابجد"), (0x1ee05, "وزحطي"), (0x1ee0e, "سعفصقرشتثخذضظغٮںڡٯ"), (0x1ee21, "بج"),
   (0x1ee24, "ه"), (0x1ee27, "ح"), (0x1ee29, "ي"), (0x1ee2e, "سعفصق"), (0x1ee34, "شتثخ"),
   (0x1ee39, "ض"), (0x1ee3b, "غ"), (0x1ee42, "ج"), (0x1ee47, "ح"), (0x1ee49, "ي"), (0x1ee4b, "ل"),
   (0x1ee4d, "نسع"), (0x1ee51, "صق"), (0x1ee54, "ش"), (0x1ee57, "خ"), (0x1ee59, "ض"),
   (0x1ee5b, "غ"), (0x1ee5d, "ں"), (0x1ee5f, "ٯ"), (0x1ee61, "بج"), (0x1ee64, "ه"),
   (0x1ee67, "حطيك"), (0x1ee6c, "منسعفصق"), (0x1ee74, "شتثخ"), (0x1ee79, "ضظغٮ"), (0x1ee7e, "ڡ"),
   (0x1ee80, "ابجدهوزحطي"), (0x1ee8e, "سعفصقرشتثخذضظغ"), (0x1eea1, "بجد"), (0x1eea5, "وزحطي"),
   (0x1eeae, "سعفصقرشتثخذضظغ"), (0x1f12b, "cr"), (0x1f202, "サ"),
   (0x1f210, "手字双デ二多解天交映無料前後再新初終生販声吹演投捕一三遊左中右指走打禁空合満有月"), (0x1f238, "申割営配"), (0x1f250, "得可"),
   (0x2f800, "丽丸乁𠄢你侮侻倂偺備僧像㒞𠘺免兔兤具𠔜㒹內再𠕋冗冤仌冬况𩇟凵刃㓟刻剆割剷㔕勇勉勤"),
   (0x2f828, "勺包匆北卉卑博即卽卿卿卿𠨬灰及叟𠭣叫叱吆咞吸呈周咢哶唐啓啣善善喙喫喳嗂圖嘆圗噑噴"),
   (0x2f850, "切壮城埴堍型堲報墬𡓤売壷夆多夢奢𡚨𡛪姬娛娧姘婦㛮㛼嬈嬾嬾𡧈寃寘寧寳𡬘寿将当尢㞁屠"),
   (0x2f878, "屮峀岍𡷤嵃𡷦嵮嵫嵼巡巢㠯巽帨帽幩㡢𢆃㡼庰庳庶廊𪎒廾𢌱𢌱舁弢弢㣇𣊸𦇚形彫㣣徚忍志忹"),
   (0x2f8a0, "悁㤺㤜悔𢛔惇慈慌慎慌慺憎憲憤憯懞懲懶成戛扝抱拔捐𢬌挽拼捨掃揤𢯱搢揅掩㨮摩摾撝摷㩬"),
   (0x2f8c8, "敏敬𣀊旣書晉㬙暑㬈㫤冒冕最暜肭䏙朗望朡杞杓𣏃㭉柺枅桒梅𣑭梎栟椔㮝楂榣槪檨𣚣櫛㰘次"),
   (0x2f8f0, "𣢧歔㱎歲殟殺殻𣪍𡴋𣫺汎𣲼沿泍汧洖派海流浩浸涅𣴞洴港湮㴳滋滇𣻑淹潮𣽞𣾎濆瀹瀞瀛㶖灊"),
   (0x2f918, "災灷炭𠔥煅𤉣熜𤎫爨爵牐𤘈犀犕𤜵𤠔獺王㺬玥㺸㺸瑇瑜瑱璅瓊㼛甤𤰶甾𤲒異𢆟瘐𤾡𤾸𥁄㿼䀈"),
   (0x2f940, "直𥃳𥃲𥄙𥄳眞真真睊䀹瞋䁆䂖𥐝硎碌磌䃣𥘦祖𥚚𥛅福秫䄯穀穊穏𥥼𥪧𥪧竮䈂𥮫篆築䈧𥲀糒䊠"),
   (0x2f968, "糨糣紀𥾆絣䌁緇縂繅䌴𦈨𦉇䍙𦋙罺𦌾羕翺者𦓚𦔣聠𦖨聰𣍟䏕育脃䐋脾媵𦞧𦞵𣎓𣎜舁舄辞䑫芑"),
   (0x2f990, "芋芝劳花芳芽苦𦬼若茝荣莭茣莽菧著荓菊菌菜𦰶𦵫𦳕䔫蓱蓳蔖𧏊蕤𦼬䕝䕡𦾱𧃒䕫虐虜虧虩蚩"),
   (0x2f9b8, "蚈蜎蛢蝹蜨蝫螆䗗蟡蠁䗹衠衣𧙧裗裞䘵裺㒻𧢮𧥦䚾䛇誠諭變豕𧲨貫賁贛起𧼯𠠄跋趼跰𠣞軔輸"),
   (0x2f9e0, "𨗒𨗭邔郱鄑𨜮鄛鈸鋗鋘鉼鏹鐕𨯺開䦕閷𨵷䧦雃嶲霣𩅅𩈚䩮䩶韠𩐊䪲𩒖頋頋頩𩖶飢䬳餩馧駂駾"), (0x2fa08, "䯎𩬰鬒鱀鳽䳎䳭鵧𪃎䳸𪄅𪈎𪊑麻䵖黹黾鼅鼏鼖鼻𪘀")]

/-- From a first character on, how each is spelled out, with a low line between two. -/
def spelled : List (Nat × String) :=
  [(0xa8, " ̈"), (0xaf, " ̄"), (0xb4, " ́"), (0xb8, " ̧"), (0xbc, "1⁄4_1⁄2_3⁄4"), (0x130, "i̇"),
   (0x132, "ij_ij"), (0x13f, "l·_l·"), (0x149, "ʼn"), (0x1c4, "dž_dž_dž_lj_lj_lj_nj_nj_nj"),
   (0x1f1, "dz_dz_dz"), (0x2d8, " ̆_ ̇_ ̊_ ̨_ ̃_ ̋"), (0x344, "̈́"), (0x37a, " ι"),
   (0x384, " ́_ ̈́"), (0x587, "եւ"), (0x675, "اٴ_وٴ_ۇٴ_يٴ"), (0x958, "क़_ख़_ग़_ज़_ड़_ढ़_फ़_य़"),
   (0x9dc, "ড়_ঢ়"), (0x9df, "য়"), (0xa33, "ਲ਼"), (0xa36, "ਸ਼"), (0xa59, "ਖ਼_ਗ਼_ਜ਼"),
   (0xa5e, "ਫ਼"), (0xb5c, "ଡ଼_ଢ଼"), (0xe33, "ํา"), (0xeb3, "ໍາ"), (0xedc, "ຫນ_ຫມ"), (0xf43, "གྷ"),
   (0xf4d, "ཌྷ"), (0xf52, "དྷ"), (0xf57, "བྷ"), (0xf5c, "ཛྷ"), (0xf69, "ཀྵ"), (0xf73, "ཱི"),
   (0xf75, "ཱུ_ྲྀ_ྲཱྀ_ླྀ_ླཱྀ"), (0xf81, "ཱྀ"), (0xf93, "ྒྷ"), (0xf9d, "ྜྷ"), (0xfa2, "ྡྷ"),
   (0xfa7, "ྦྷ"), (0xfac, "ྫྷ"), (0xfb9, "ྐྵ"), (0x1e9a, "aʾ"),
   (0x1f80, "ἀι_ἁι_ἂι_ἃι_ἄι_ἅι_ἆι_ἇι_ἀι_ἁι_ἂι_ἃι_ἄι_ἅι_ἆι_ἇι_ἠι_ἡι_ἢι_ἣι_ἤι_ἥι_ἦι_ἧι_ἠι"),
   (0x1f99, "ἡι_ἢι_ἣι_ἤι_ἥι_ἦι_ἧι_ὠι_ὡι_ὢι_ὣι_ὤι_ὥι_ὦι_ὧι_ὠι_ὡι_ὢι_ὣι_ὤι_ὥι_ὦι_ὧι"),
   (0x1fb2, "ὰι_αι_άι"), (0x1fb7, "ᾶι"), (0x1fbc, "αι_ ̓"), (0x1fbf, " ̓_ ͂_ ̈͂_ὴι_ηι_ήι"),
   (0x1fc7, "ῆι"), (0x1fcc, "ηι_ ̓̀_ ̓́_ ̓͂"), (0x1fdd, " ̔̀_ ̔́_ ̔͂"), (0x1fed, " ̈̀_ ̈́"),
   (0x1ff2, "ὼι_ωι_ώι"), (0x1ff7, "ῶι"), (0x1ffc, "ωι_ ́_ ̔"), (0x2017, " ̳"), (0x2033, "′′_′′′"),
   (0x2036, "‵‵_‵‵‵"), (0x203c, "!!"), (0x203e, " ̅"), (0x2047, "??_?!_!?"), (0x2057, "′′′′"),
   (0x20a8, "rs"), (0x2100, "a/c_a/s"), (0x2103, "°c"), (0x2105, "c/o_c/u"), (0x2109, "°f"),
   (0x2116, "no"), (0x2120, "sm_tel_tm"), (0x213b, "fax"),
   (0x2150, "1⁄7_1⁄9_1⁄10_1⁄3_2⁄3_1⁄5_2⁄5_3⁄5_4⁄5_1⁄6_5⁄6_1⁄8_3⁄8_5⁄8_7⁄8_1⁄"),
   (0x2161, "ii_iii_iv"), (0x2165, "vi_vii_viii_ix"), (0x216a, "xi_xii"), (0x2171, "ii_iii_iv"),
   (0x2175, "vi_vii_viii_ix"), (0x217a, "xi_xii"), (0x2189, "0⁄3"), (0x222c, "∫∫_∫∫∫"),
   (0x222f, "∮∮_∮∮∮"),
   (0x2469, "10_11_12_13_14_15_16_17_18_19_20_(1)_(2)_(3)_(4)_(5)_(6)_(7)_(8)_(9)_(10)"),
   (0x247e, "(11)_(12)_(13)_(14)_(15)_(16)_(17)_(18)_(19)_(20)"),
   (0x249c, "(a)_(b)_(c)_(d)_(e)_(f)_(g)_(h)_(i)_(j)_(k)_(l)_(m)_(n)_(o)_(p)_(q)_(r)_(s)"),
   (0x24af, "(t)_(u)_(v)_(w)_(x)_(y)_(z)"), (0x2a0c, "∫∫∫∫"), (0x2a74, "::=_==_==="),
   (0x2adc, "⫝̸"), (0x309b, " ゙_ ゚"), (0x309f, "より"), (0x30ff, "コト"),
   (0x3200, "(ᄀ)_(ᄂ)_(ᄃ)_(ᄅ)_(ᄆ)_(ᄇ)_(ᄉ)_(ᄋ)_(ᄌ)_(ᄎ)_(ᄏ)_(ᄐ)_(ᄑ)_(ᄒ)_(가)_(나)_(다)_(라)_(마)"),
   (0x3213, "(바)_(사)_(아)_(자)_(차)_(카)_(타)_(파)_(하)_(주)_(오전)_(오후)"),
   (0x3220, "(一)_(二)_(三)_(四)_(五)_(六)_(七)_(八)_(九)_(十)_(月)_(火)_(水)_(木)_(金)_(土)_(日)_(株)_(有)"),
   (0x3233, "(社)_(名)_(特)_(財)_(祝)_(労)_(代)_(呼)_(学)_(監)_(企)_(資)_(協)_(祭)_(休)_(自)_(至)"),
   (0x3250, "pte_21_22_23_24_25_26_27_28_29_30_31_32_33_34_35"), (0x327c, "참고_주의"),
   (0x32b1, "36_37_38_39_40_41_42_43_44_45_46_47_48_49_50_1月_2月_3月_4月_5月_6月_7月_8月_9月_10月"),
   (0x32ca, "11月_12月_hg_erg_ev_ltd"),
   (0x32ff, "令和_アパート_アルファ_アンペア_アール_イニング_インチ_ウォン_エスクード_エーカー_オンス_オーム_カイリ_カラット_カロリー_ガロン_ガンマ"),
   (0x3310, "ギガ_ギニー_キュリー_ギルダー_キロ_キログラム_キロメートル_キロワット_グラム_グラムトン_クルゼイロ_クローネ_ケース_コルナ_コーポ"),
   (0x331f, "サイクル_サンチーム_シリング_センチ_セント_ダース_デシ_ドル_トン_ナノ_ノット_ハイツ_パーセント_パーツ_バーレル_ピアストル_ピクル_ピコ"),
   (0x3331, "ビル_ファラッド_フィート_ブッシェル_フラン_ヘクタール_ペソ_ペニヒ_ヘルツ_ペンス_ページ_ベータ_ポイント_ボルト_ホン_ポンド_ホール"),
   (0x3342, "ホーン_マイクロ_マイル_マッハ_マルク_マンション_ミクロン_ミリ_ミリバール_メガ_メガトン_メートル_ヤード_ヤール_ユアン_リットル_リラ"),
   (0x3353, "ルピー_ルーブル_レム_レントゲン_ワット_0点_1点_2点_3点_4点_5点_6点_7点_8点_9点_10点_11点_12点_13点_14点_15点"),
   (0x3368, "16点_17点_18点_19点_20点_21点_22点_23点_24点_hpa_da_au_bar_ov_pc_dm_dm2_dm3_iu_平成_昭和"),
   (0x337d, "大正_明治_株式会社_pa_na_μa_ma_ka_kb_mb_gb_cal_kcal_pf_nf_μf_μg_mg_kg_hz_khz_mhz"),
   (0x3393, "ghz_thz_μl_ml_dl_kl_fm_nm_μm_mm_cm_km_mm2_cm2_m2_km2_mm3_cm3_m3_km3_m∕s"),
   (0x33a8, "m∕s2_pa_kpa_mpa_gpa_rad_rad∕s_rad∕s2_ps_ns_μs_ms_pv_nv_μv_mv_kv_mv_pw_nw_μw"),
   (0x33bd, "mw_kw_mw_kω_mω"), (0x33c3, "bq_cc_cd_c∕kg"),
   (0x33c8, "db_gy_ha_hp_in_kk_km_kt_lm_ln_log_lx_mb_mil_mol_ph"),
   (0x33d9, "ppm_pr_sr_sv_wb_v∕m_a∕m_1日_2日_3日_4日_5日_6日_7日_8日_9日_10日_11日_12日_13日_14日_15日"),
   (0x33ef, "16日_17日_18日_19日_20日_21日_22日_23日_24日_25日_26日_27日_28日_29日_30日_31日_gal"),
   (0xfb00, "ff_fi_fl_ffi_ffl_st_st"), (0xfb13, "մն_մե_մի_վն_մխ"), (0xfb1d, "יִ"), (0xfb1f, "ײַ"),
   (0xfb2a, "שׁ_שׂ_שּׁ_שּׂ_אַ_אָ_אּ_בּ_גּ_דּ_הּ_וּ_זּ"), (0xfb38, "טּ_יּ_ךּ_כּ_לּ"),
   (0xfb3e, "מּ"), (0xfb40, "נּ_סּ"), (0xfb43, "ףּ_פּ"),
   (0xfb46, "צּ_קּ_רּ_שּ_תּ_וֹ_בֿ_כֿ_פֿ_אל"), (0xfbdd, "ۇٴ"),
   (0xfbea, "ئا_ئا_ئە_ئە_ئو_ئو_ئۇ_ئۇ_ئۆ_ئۆ_ئۈ_ئۈ_ئې_ئې_ئې_ئى_ئى_ئى"),
   (0xfc00, "ئج_ئح_ئم_ئى_ئي_بج_بح_بخ_بم_بى_بي_تج_تح_تخ_تم_تى_تي_ثج_ثم_ثى_ثي_جح_جم_حج_حم"),
   (0xfc19, "خج_خح_خم_سج_سح_سخ_سم_صح_صم_ضج_ضح_ضخ_ضم_طح_طم_ظم_عج_عم_غج_غم_فج_فح_فخ_فم_فى"),
   (0xfc32, "في_قح_قم_قى_قي_كا_كج_كح_كخ_كل_كم_كى_كي_لج_لح_لخ_لم_لى_لي_مج_مح_مخ_مم_مى_مي"),
   (0xfc4b, "نج_نح_نخ_نم_نى_ني_هج_هم_هى_هي_يج_يح_يخ_يم_يى_يي_ذٰ_رٰ_ىٰ_ ٌّ_ ٍّ_ َّ_ ُّ"),
   (0xfc62, " ِّ_ ّٰ_ئر_ئز_ئم_ئن_ئى_ئي_بر_بز_بم_بن_بى_بي_تر_تز_تم_تن_تى_تي_ثر_ثز_ثم_ثن"),
   (0xfc7a, "ثى_ثي_فى_في_قى_قي_كا_كل_كم_كى_كي_لم_لى_لي_ما_مم_نر_نز_نم_نن_نى_ني_ىٰ_ير_يز"),
   (0xfc93, "يم_ين_يى_يي_ئج_ئح_ئخ_ئم_ئه_بج_بح_بخ_بم_به_تج_تح_تخ_تم_ته_ثم_جح_جم_حج_حم_خج"),
   (0xfcac, "خم_سج_سح_سخ_سم_صح_صخ_صم_ضج_ضح_ضخ_ضم_طح_ظم_عج_عم_غج_غم_فج_فح_فخ_فم_قح_قم_كج"),
   (0xfcc5, "كح_كخ_كل_كم_لج_لح_لخ_لم_له_مج_مح_مخ_مم_نج_نح_نخ_نم_نه_هج_هم_هٰ_يج_يح_يخ_يم"),
   (0xfcde, "يه_ئم_ئه_بم_به_تم_ته_ثم_ثه_سم_سه_شم_شه_كل_كم_لم_نم_نه_يم_يه_ـَّ_ـُّ_ـِّ_طى"),
   (0xfcf6, "طي_عى_عي_غى_غي_سى_سي_شى_شي_حى_حي_جى_جي_خى_خي_صى_صي_ضى_ضي_شج_شح_شخ_شم_شر_سر"),
   (0xfd0f, "صر_ضر_طى_طي_عى_عي_غى_غي_سى_سي_شى_شي_حى_حي_جى_جي_خى_خي_صى_صي_ضى_ضي_شج_شح_شخ"),
   (0xfd28, "شم_شر_سر_صر_ضر_شج_شح_شخ_شم_سه_شه_طم_سج_سح_سخ_شج_شح_شخ_طم_ظم_اً_اً"),
   (0xfd50, "تجم_تحج_تحج_تحم_تخم_تمج_تمح_تمخ_جمح_جمح_حمي_حمى_سحج_سجح_سجى_سمح_سمح_سمج_سمم"),
   (0xfd63, "سمم_صحح_صحح_صمم_شحم_شحم_شجي_شمخ_شمخ_شمم_شمم_ضحى_ضخم_ضخم_طمح_طمح_طمم_طمي_عجم"),
   (0xfd76, "عمم_عمم_عمى_غمم_غمي_غمى_فخم_فخم_قمح_قمم_لحم_لحي_لحى_لجج_لجج_لخم_لخم_لمح_لمح"),
   (0xfd89, "محج_محم_محي_مجح_مجم_مخج_مخم"),
   (0xfd92, "مجخ_همج_همم_نحم_نحى_نجم_نجم_نجى_نمي_نمى_يمم_يمم_بخي_تجي_تجى_تخي_تخى_تمي_تمى"),
   (0xfda5, "جمي_جحى_جمى_سخى_صحي_شحي_ضحي_لجي_لمي_يحي_يجي_يمي_ممي_قمي_نحي_قمح_لحم_عمي_كمي"),
   (0xfdb8, "نجح_مخي_لجم_كمم_لجم_نجح_جحي_حجي_مجي_فمي_بحي_كمم_عجم_صمم_سخي_نجي"),
   (0xfdf0, "صلے_قلے_الله_اكبر_محمد_صلعم_رسول_عليه_وسلم_صلى_صلى الله عليه وسلم_جل جلاله"),
   (0xfdfc, "ریال"), (0xfe49, " ̅_ ̅_ ̅_ ̅"), (0xfe70, " ً_ـً_ ٌ"), (0xfe74, " ٍ"),
   (0xfe76, " َ_ـَ_ ُ_ـُ_ ِ_ـِ_ ّ_ـّ_ ْ_ـْ"), (0xfef5, "لآ_لآ_لأ_لأ_لإ_لإ_لا_لا"), (0xffe3, " ̄"),
   (0x1d15e, "𝅗𝅥_𝅘𝅥_𝅘𝅥𝅮_𝅘𝅥𝅯_𝅘𝅥𝅰_𝅘𝅥𝅱_𝅘𝅥𝅲"), (0x1d1bb, "𝆹𝅥_𝆺𝅥_𝆹𝅥𝅮_𝆺𝅥𝅮_𝆹𝅥𝅯_𝆺𝅥𝅯"),
   (0x1f101, "0,_1,_2,_3,_4,_5,_6,_7,_8,_9,"),
   (0x1f110, "(a)_(b)_(c)_(d)_(e)_(f)_(g)_(h)_(i)_(j)_(k)_(l)_(m)_(n)_(o)_(p)_(q)_(r)_(s)"),
   (0x1f123, "(t)_(u)_(v)_(w)_(x)_(y)_(z)_〔s〕"), (0x1f12d, "cd_wz"),
   (0x1f14a, "hv_mv_sd_ss_ppv_wc"), (0x1f16a, "mc_md_mr"), (0x1f190, "dj"), (0x1f200, "ほか_ココ"),
   (0x1f240, "〔本〕_〔三〕_〔二〕_〔安〕_〔点〕_〔打〕_〔盗〕_〔勝〕_〔敗〕")]

def kept : CodeRanges :=
  [(0x0, 0x7f), (0xa1, 0x377), (0x37b, 0x37d), (0x390, 0x390), (0x3ac, 0x52f), (0x559, 0x58a),
   (0x58d, 0x58f), (0x591, 0x5c7), (0x5d0, 0x5ea), (0x5ef, 0x5f4), (0x606, 0x61b), (0x61d, 0x6dc),
   (0x6de, 0x70d), (0x710, 0x74a), (0x74d, 0x7b1), (0x7c0, 0x7fa), (0x7fd, 0x82d), (0x830, 0x83e),
   (0x840, 0x85b), (0x85e, 0x85e), (0x860, 0x86a), (0x870, 0x88f), (0x897, 0x8e1), (0x8e3, 0x983),
   (0x985, 0x98c), (0x98f, 0x990), (0x993, 0x9a8), (0x9aa, 0x9b0), (0x9b2, 0x9b2), (0x9b6, 0x9b9),
   (0x9bc, 0x9c4), (0x9c7, 0x9c8), (0x9cb, 0x9ce), (0x9d7, 0x9d7), (0x9e0, 0x9e3), (0x9e6, 0x9fe),
   (0xa01, 0xa03), (0xa05, 0xa0a), (0xa0f, 0xa10), (0xa13, 0xa28), (0xa2a, 0xa30), (0xa32, 0xa32),
   (0xa35, 0xa35), (0xa38, 0xa39), (0xa3c, 0xa3c), (0xa3e, 0xa42), (0xa47, 0xa48), (0xa4b, 0xa4d),
   (0xa51, 0xa51), (0xa5c, 0xa5c), (0xa66, 0xa76), (0xa81, 0xa83), (0xa85, 0xa8d), (0xa8f, 0xa91),
   (0xa93, 0xaa8), (0xaaa, 0xab0), (0xab2, 0xab3), (0xab5, 0xab9), (0xabc, 0xac5), (0xac7, 0xac9),
   (0xacb, 0xacd), (0xad0, 0xad0), (0xae0, 0xae3), (0xae6, 0xaf1), (0xaf9, 0xaff), (0xb01, 0xb03),
   (0xb05, 0xb0c), (0xb0f, 0xb10), (0xb13, 0xb28), (0xb2a, 0xb30), (0xb32, 0xb33), (0xb35, 0xb39),
   (0xb3c, 0xb44), (0xb47, 0xb48), (0xb4b, 0xb4d), (0xb55, 0xb57), (0xb5f, 0xb63), (0xb66, 0xb77),
   (0xb82, 0xb83), (0xb85, 0xb8a), (0xb8e, 0xb90), (0xb92, 0xb95), (0xb99, 0xb9a), (0xb9c, 0xb9c),
   (0xb9e, 0xb9f), (0xba3, 0xba4), (0xba8, 0xbaa), (0xbae, 0xbb9), (0xbbe, 0xbc2), (0xbc6, 0xbc8),
   (0xbca, 0xbcd), (0xbd0, 0xbd0), (0xbd7, 0xbd7), (0xbe6, 0xbfa), (0xc00, 0xc0c), (0xc0e, 0xc10),
   (0xc12, 0xc28), (0xc2a, 0xc39), (0xc3c, 0xc44), (0xc46, 0xc48), (0xc4a, 0xc4d), (0xc55, 0xc56),
   (0xc58, 0xc5a), (0xc5c, 0xc5d), (0xc60, 0xc63), (0xc66, 0xc6f), (0xc77, 0xc8c), (0xc8e, 0xc90),
   (0xc92, 0xca8), (0xcaa, 0xcb3), (0xcb5, 0xcb9), (0xcbc, 0xcc4), (0xcc6, 0xcc8), (0xcca, 0xccd),
   (0xcd5, 0xcd6), (0xcdc, 0xcde), (0xce0, 0xce3), (0xce6, 0xcef), (0xcf1, 0xcf3), (0xd00, 0xd0c),
   (0xd0e, 0xd10), (0xd12, 0xd44), (0xd46, 0xd48), (0xd4a, 0xd4f), (0xd54, 0xd63), (0xd66, 0xd7f),
   (0xd81, 0xd83), (0xd85, 0xd96), (0xd9a, 0xdb1), (0xdb3, 0xdbb), (0xdbd, 0xdbd), (0xdc0, 0xdc6),
   (0xdca, 0xdca), (0xdcf, 0xdd4), (0xdd6, 0xdd6), (0xdd8, 0xddf), (0xde6, 0xdef), (0xdf2, 0xdf4),
   (0xe01, 0xe3a), (0xe3f, 0xe5b), (0xe81, 0xe82), (0xe84, 0xe84), (0xe86, 0xe8a), (0xe8c, 0xea3),
   (0xea5, 0xea5), (0xea7, 0xebd), (0xec0, 0xec4), (0xec6, 0xec6), (0xec8, 0xece), (0xed0, 0xed9),
   (0xede, 0xedf), (0xf00, 0xf47), (0xf49, 0xf6c), (0xf71, 0xf97), (0xf99, 0xfbc), (0xfbe, 0xfcc),
   (0xfce, 0xfda), (0x1000, 0x109f), (0x10d0, 0x1248), (0x124a, 0x124d), (0x1250, 0x1256),
   (0x1258, 0x1258), (0x125a, 0x125d), (0x1260, 0x1288), (0x128a, 0x128d), (0x1290, 0x12b0),
   (0x12b2, 0x12b5), (0x12b8, 0x12be), (0x12c0, 0x12c0), (0x12c2, 0x12c5), (0x12c8, 0x12d6),
   (0x12d8, 0x1310), (0x1312, 0x1315), (0x1318, 0x135a), (0x135d, 0x137c), (0x1380, 0x1399),
   (0x13a0, 0x13f5), (0x1400, 0x167f), (0x1681, 0x169c), (0x16a0, 0x16f8), (0x1700, 0x1715),
   (0x171f, 0x1736), (0x1740, 0x1753), (0x1760, 0x176c), (0x176e, 0x1770), (0x1772, 0x1773),
   (0x1780, 0x17dd), (0x17e0, 0x17e9), (0x17f0, 0x17f9), (0x1800, 0x1819), (0x1820, 0x1878),
   (0x1880, 0x18aa), (0x18b0, 0x18f5), (0x1900, 0x191e), (0x1920, 0x192b), (0x1930, 0x193b),
   (0x1940, 0x1940), (0x1944, 0x196d), (0x1970, 0x1974), (0x1980, 0x19ab), (0x19b0, 0x19c9),
   (0x19d0, 0x19da), (0x19de, 0x1a1b), (0x1a1e, 0x1a5e), (0x1a60, 0x1a7c), (0x1a7f, 0x1a89),
   (0x1a90, 0x1a99), (0x1aa0, 0x1aad), (0x1ab0, 0x1add), (0x1ae0, 0x1aeb), (0x1b00, 0x1b4c),
   (0x1b4e, 0x1bf3), (0x1bfc, 0x1c37), (0x1c3b, 0x1c49), (0x1c4d, 0x1c8a), (0x1cc0, 0x1cc7),
   (0x1cd0, 0x1cfa), (0x1d00, 0x1f15), (0x1f20, 0x1f45), (0x1f50, 0x1f57), (0x1f60, 0x1f7c),
   (0x1fb0, 0x1fb1), (0x1fb6, 0x1fb6), (0x1fc6, 0x1fd2), (0x1fd6, 0x1fd7), (0x1fe0, 0x1fe7),
   (0x1ff6, 0x1ff6), (0x200c, 0x200d), (0x2010, 0x2023), (0x2027, 0x2027), (0x2030, 0x205e),
   (0x20a0, 0x20c1), (0x20d0, 0x20f0), (0x2104, 0x218b), (0x2190, 0x2429), (0x2440, 0x244a),
   (0x24eb, 0x2b73), (0x2b76, 0x2cf3), (0x2cf9, 0x2d25), (0x2d27, 0x2d27), (0x2d2d, 0x2d2d),
   (0x2d30, 0x2d67), (0x2d70, 0x2d70), (0x2d7f, 0x2d96), (0x2da0, 0x2da6), (0x2da8, 0x2dae),
   (0x2db0, 0x2db6), (0x2db8, 0x2dbe), (0x2dc0, 0x2dc6), (0x2dc8, 0x2dce), (0x2dd0, 0x2dd6),
   (0x2dd8, 0x2dde), (0x2de0, 0x2e5d), (0x2e80, 0x2e99), (0x2e9b, 0x2ef2), (0x3001, 0x303f),
   (0x3041, 0x3096), (0x3099, 0x30fe), (0x3105, 0x312f), (0x3190, 0x31e5), (0x31f0, 0x31ff),
   (0x3248, 0x327f), (0x3400, 0xa48c), (0xa490, 0xa4c6), (0xa4d0, 0xa62b), (0xa641, 0xa6f7),
   (0xa700, 0xa7db), (0xa7f6, 0xa82c), (0xa830, 0xa839), (0xa840, 0xa877), (0xa880, 0xa8c5),
   (0xa8ce, 0xa8d9), (0xa8e0, 0xa953), (0xa95f, 0xa97c), (0xa980, 0xa9cd), (0xa9cf, 0xa9d9),
   (0xa9de, 0xa9fe), (0xaa00, 0xaa36), (0xaa40, 0xaa4d), (0xaa50, 0xaa59), (0xaa5c, 0xaac2),
   (0xaadb, 0xaaf6), (0xab01, 0xab06), (0xab09, 0xab0e), (0xab11, 0xab16), (0xab20, 0xab26),
   (0xab28, 0xab2e), (0xab30, 0xab6b), (0xabc0, 0xabed), (0xabf0, 0xabf9), (0xac00, 0xd7a3),
   (0xd7b0, 0xd7c6), (0xd7cb, 0xd7fb), (0xfa0e, 0xfa29), (0xfb1e, 0xfb1e), (0xfbb2, 0xfdcf),
   (0xfdfd, 0xfdff), (0xfe20, 0xfe2f), (0xfe45, 0xfe46), (0xfe73, 0xfe73), (0x10000, 0x1000b),
   (0x1000d, 0x10026), (0x10028, 0x1003a), (0x1003c, 0x1003d), (0x1003f, 0x1004d),
   (0x10050, 0x1005d), (0x10080, 0x100fa), (0x10100, 0x10102), (0x10107, 0x10133),
   (0x10137, 0x1018e), (0x10190, 0x1019c), (0x101a0, 0x101a0), (0x101d0, 0x101fd),
   (0x10280, 0x1029c), (0x102a0, 0x102d0), (0x102e0, 0x102fb), (0x10300, 0x10323),
   (0x1032d, 0x1034a), (0x10350, 0x1037a), (0x10380, 0x1039d), (0x1039f, 0x103c3),
   (0x103c8, 0x103d5), (0x10428, 0x1049d), (0x104a0, 0x104a9), (0x104d8, 0x104fb),
   (0x10500, 0x10527), (0x10530, 0x10563), (0x1056f, 0x1056f), (0x10597, 0x105a1),
   (0x105a3, 0x105b1), (0x105b3, 0x105b9), (0x105bb, 0x105bc), (0x105c0, 0x105f3),
   (0x10600, 0x10736), (0x10740, 0x10755), (0x10760, 0x10767), (0x10780, 0x10780),
   (0x10800, 0x10805), (0x10808, 0x10808), (0x1080a, 0x10835), (0x10837, 0x10838),
   (0x1083c, 0x1083c), (0x1083f, 0x10855), (0x10857, 0x1089e), (0x108a7, 0x108af),
   (0x108e0, 0x108f2), (0x108f4, 0x108f5), (0x108fb, 0x1091b), (0x1091f, 0x10939),
   (0x1093f, 0x10959), (0x10980, 0x109b7), (0x109bc, 0x109cf), (0x109d2, 0x10a03),
   (0x10a05, 0x10a06), (0x10a0c, 0x10a13), (0x10a15, 0x10a17), (0x10a19, 0x10a35),
   (0x10a38, 0x10a3a), (0x10a3f, 0x10a48), (0x10a50, 0x10a58), (0x10a60, 0x10a9f),
   (0x10ac0, 0x10ae6), (0x10aeb, 0x10af6), (0x10b00, 0x10b35), (0x10b39, 0x10b55),
   (0x10b58, 0x10b72), (0x10b78, 0x10b91), (0x10b99, 0x10b9c), (0x10ba9, 0x10baf),
   (0x10c00, 0x10c48), (0x10cc0, 0x10cf2), (0x10cfa, 0x10d27), (0x10d30, 0x10d39),
   (0x10d40, 0x10d4f), (0x10d69, 0x10d85), (0x10d8e, 0x10d8f), (0x10e60, 0x10e7e),
   (0x10e80, 0x10ea9), (0x10eab, 0x10ead), (0x10eb0, 0x10eb1), (0x10ec2, 0x10ec7),
   (0x10ed0, 0x10ed8), (0x10efa, 0x10f27), (0x10f30, 0x10f59), (0x10f70, 0x10f89),
   (0x10fb0, 0x10fcb), (0x10fe0, 0x10ff6), (0x11000, 0x1104d), (0x11052, 0x11075),
   (0x1107f, 0x110bc), (0x110be, 0x110c2), (0x110d0, 0x110e8), (0x110f0, 0x110f9),
   (0x11100, 0x11134), (0x11136, 0x11147), (0x11150, 0x11176), (0x11180, 0x111df),
   (0x111e1, 0x111f4), (0x11200, 0x11211), (0x11213, 0x11241), (0x11280, 0x11286),
   (0x11288, 0x11288), (0x1128a, 0x1128d), (0x1128f, 0x1129d), (0x1129f, 0x112a9),
   (0x112b0, 0x112ea), (0x112f0, 0x112f9), (0x11300, 0x11303), (0x11305, 0x1130c),
   (0x1130f, 0x11310), (0x11313, 0x11328), (0x1132a, 0x11330), (0x11332, 0x11333),
   (0x11335, 0x11339), (0x1133b, 0x11344), (0x11347, 0x11348), (0x1134b, 0x1134d),
   (0x11350, 0x11350), (0x11357, 0x11357), (0x1135d, 0x11363), (0x11366, 0x1136c),
   (0x11370, 0x11374), (0x11380, 0x11389), (0x1138b, 0x1138b), (0x1138e, 0x1138e),
   (0x11390, 0x113b5), (0x113b7, 0x113c0), (0x113c2, 0x113c2), (0x113c5, 0x113c5),
   (0x113c7, 0x113ca), (0x113cc, 0x113d5), (0x113d7, 0x113d8), (0x113e1, 0x113e2),
   (0x11400, 0x1145b), (0x1145d, 0x11461), (0x11480, 0x114c7), (0x114d0, 0x114d9),
   (0x11580, 0x115b5), (0x115b8, 0x115dd), (0x11600, 0x11644), (0x11650, 0x11659),
   (0x11660, 0x1166c), (0x11680, 0x116b9), (0x116c0, 0x116c9), (0x116d0, 0x116e3),
   (0x11700, 0x1171a), (0x1171d, 0x1172b), (0x11730, 0x11746), (0x11800, 0x1183b),
   (0x118c0, 0x118f2), (0x118ff, 0x11906), (0x11909, 0x11909), (0x1190c, 0x11913),
   (0x11915, 0x11916), (0x11918, 0x11935), (0x11937, 0x11938), (0x1193b, 0x11946),
   (0x11950, 0x11959), (0x119a0, 0x119a7), (0x119aa, 0x119d7), (0x119da, 0x119e4),
   (0x11a00, 0x11a47), (0x11a50, 0x11aa2), (0x11ab0, 0x11af8), (0x11b00, 0x11b09),
   (0x11b60, 0x11b67), (0x11bc0, 0x11be1), (0x11bf0, 0x11bf9), (0x11c00, 0x11c08),
   (0x11c0a, 0x11c36), (0x11c38, 0x11c45), (0x11c50, 0x11c6c), (0x11c70, 0x11c8f),
   (0x11c92, 0x11ca7), (0x11ca9, 0x11cb6), (0x11d00, 0x11d06), (0x11d08, 0x11d09),
   (0x11d0b, 0x11d36), (0x11d3a, 0x11d3a), (0x11d3c, 0x11d3d), (0x11d3f, 0x11d47),
   (0x11d50, 0x11d59), (0x11d60, 0x11d65), (0x11d67, 0x11d68), (0x11d6a, 0x11d8e),
   (0x11d90, 0x11d91), (0x11d93, 0x11d98), (0x11da0, 0x11da9), (0x11db0, 0x11ddb),
   (0x11de0, 0x11de9), (0x11ee0, 0x11ef8), (0x11f00, 0x11f10), (0x11f12, 0x11f3a),
   (0x11f3e, 0x11f5a), (0x11fb0, 0x11fb0), (0x11fc0, 0x11ff1), (0x11fff, 0x12399),
   (0x12400, 0x1246e), (0x12470, 0x12474), (0x12480, 0x12543), (0x12f90, 0x12ff2),
   (0x13000, 0x1342f), (0x13440, 0x13455), (0x13460, 0x143fa), (0x14400, 0x14646),
   (0x16100, 0x16139), (0x16800, 0x16a38), (0x16a40, 0x16a5e), (0x16a60, 0x16a69),
   (0x16a6e, 0x16abe), (0x16ac0, 0x16ac9), (0x16ad0, 0x16aed), (0x16af0, 0x16af5),
   (0x16b00, 0x16b45), (0x16b50, 0x16b59), (0x16b5b, 0x16b61), (0x16b63, 0x16b77),
   (0x16b7d, 0x16b8f), (0x16d40, 0x16d79), (0x16e60, 0x16e9a), (0x16ebb, 0x16ed3),
   (0x16f00, 0x16f4a), (0x16f4f, 0x16f87), (0x16f8f, 0x16f9f), (0x16fe0, 0x16fe4),
   (0x16ff0, 0x16ff6), (0x17000, 0x18cd5), (0x18cff, 0x18d1e), (0x18d80, 0x18df2),
   (0x1aff0, 0x1aff3), (0x1aff5, 0x1affb), (0x1affd, 0x1affe), (0x1b000, 0x1b122),
   (0x1b132, 0x1b132), (0x1b150, 0x1b152), (0x1b155, 0x1b155), (0x1b164, 0x1b167),
   (0x1b170, 0x1b2fb), (0x1bc00, 0x1bc6a), (0x1bc70, 0x1bc7c), (0x1bc80, 0x1bc88),
   (0x1bc90, 0x1bc99), (0x1bc9c, 0x1bc9f), (0x1cc00, 0x1ccfc), (0x1cd00, 0x1ceb3),
   (0x1ceba, 0x1ced0), (0x1cee0, 0x1cef0), (0x1cf00, 0x1cf2d), (0x1cf30, 0x1cf46),
   (0x1cf50, 0x1cfc3), (0x1d000, 0x1d0f5), (0x1d100, 0x1d126), (0x1d129, 0x1d1ea),
   (0x1d200, 0x1d245), (0x1d2c0, 0x1d2d3), (0x1d2e0, 0x1d2f3), (0x1d300, 0x1d356),
   (0x1d360, 0x1d378), (0x1d800, 0x1da8b), (0x1da9b, 0x1da9f), (0x1daa1, 0x1daaf),
   (0x1df00, 0x1df1e), (0x1df25, 0x1df2a), (0x1e000, 0x1e006), (0x1e008, 0x1e018),
   (0x1e01b, 0x1e021), (0x1e023, 0x1e024), (0x1e026, 0x1e02a), (0x1e08f, 0x1e08f),
   (0x1e100, 0x1e12c), (0x1e130, 0x1e13d), (0x1e140, 0x1e149), (0x1e14e, 0x1e14f),
   (0x1e290, 0x1e2ae), (0x1e2c0, 0x1e2f9), (0x1e2ff, 0x1e2ff), (0x1e4d0, 0x1e4f9),
   (0x1e5d0, 0x1e5fa), (0x1e5ff, 0x1e5ff), (0x1e6c0, 0x1e6de), (0x1e6e0, 0x1e6f5),
   (0x1e6fe, 0x1e6ff), (0x1e7e0, 0x1e7e6), (0x1e7e8, 0x1e7eb), (0x1e7ed, 0x1e7ee),
   (0x1e7f0, 0x1e7fe), (0x1e800, 0x1e8c4), (0x1e8c7, 0x1e8d6), (0x1e922, 0x1e94b),
   (0x1e950, 0x1e959), (0x1e95e, 0x1e95f), (0x1ec71, 0x1ecb4), (0x1ed01, 0x1ed3d),
   (0x1eef0, 0x1eef1), (0x1f000, 0x1f02b), (0x1f030, 0x1f093), (0x1f0a0, 0x1f0ae),
   (0x1f0b1, 0x1f0bf), (0x1f0c1, 0x1f0cf), (0x1f0d1, 0x1f0f5), (0x1f10b, 0x1f1ad),
   (0x1f1e6, 0x1f1ff), (0x1f260, 0x1f265), (0x1f300, 0x1f6d8), (0x1f6dc, 0x1f6ec),
   (0x1f6f0, 0x1f6fc), (0x1f700, 0x1f7d9), (0x1f7e0, 0x1f7eb), (0x1f7f0, 0x1f7f0),
   (0x1f800, 0x1f80b), (0x1f810, 0x1f847), (0x1f850, 0x1f859), (0x1f860, 0x1f887),
   (0x1f890, 0x1f8ad), (0x1f8b0, 0x1f8bb), (0x1f8c0, 0x1f8c1), (0x1f8d0, 0x1f8d8),
   (0x1f900, 0x1fa57), (0x1fa60, 0x1fa6d), (0x1fa70, 0x1fa7c), (0x1fa80, 0x1fa8a),
   (0x1fa8e, 0x1fac6), (0x1fac8, 0x1fac8), (0x1facd, 0x1fadc), (0x1fadf, 0x1faea),
   (0x1faef, 0x1faf8), (0x1fb00, 0x1fb92), (0x1fb94, 0x1fbfa), (0x20000, 0x2a6df),
   (0x2a700, 0x2b81d), (0x2b820, 0x2cead), (0x2ceb0, 0x2ebe0), (0x2ebf0, 0x2ee5d),
   (0x30000, 0x3134a), (0x31350, 0x33479)]

end AppLinks.DomainTable
