/-!
# Names of characters: G to K

## Main definitions

* `CharacterName.volumeGToK` — the names that begin with the letters from G to K.
-/

namespace SwitchTrace.CharacterName

/-- The outline of the names that begin with the letters from G to K, in pieces. -/
def volumeGToK : List String :=
  ["GAME DIE,GARLIC,GEAR(,WITH HANDLES,WITHOUT HUB),GEM STONE,GEMINI,GENIE,GEOMETRIC PROPORTION,",
  "GEOMETRICALLY(EQUAL TO,EQUIVALENT TO),GEORGIAN(CAPITAL LETTER(AEN,AN,BAN,CAN,CHAR,CHIN,CIL,",
  "DON,EN,GAN,GHAN,HAE,HAR,HE,HIE,HOE,IN,JHAN,JIL,KAN,KHAR,LAS,MAN,NAR,ON,PAR,PHAR,QAR,RAE,SAN,",
  "SHIN,TAN,TAR,UN,VIN,WE,XAN,YN,ZEN,ZHAR),LETTER(AEN,AIN,AN,BAN,CAN,CHAR,CHIN,CIL,DON,ELIFI,EN,",
  "FI,GAN,GHAN,HAE,HAR,HARD SIGN,HE,HIE,HOE,IN,JHAN,JIL,KAN,KHAR,LABIAL SIGN,LAS,MAN,NAR,ON,PAR,",
  "PHAR,QAR,RAE,SAN,SHIN,TAN,TAR,TURNED GAN,UN,VIN,WE,XAN,YN,ZEN,ZHAR),MTAVRULI CAPITAL LETTER(",
  "AEN,AIN,AN,BAN,CAN,CHAR,CHIN,CIL,DON,ELIFI,EN,FI,GAN,GHAN,HAE,HAR,HARD SIGN,HE,HIE,HOE,IN,",
  "JHAN,JIL,KAN,KHAR,LABIAL SIGN,LAS,MAN,NAR,ON,PAR,PHAR,QAR,RAE,SAN,SHIN,TAN,TAR,TURNED GAN,UN,",
  "VIN,WE,XAN,YN,ZEN,ZHAR),PARAGRAPH SEPARATOR,SMALL LETTER(AEN,AN,BAN,CAN,CHAR,CHIN,CIL,DON,EN,",
  "GAN,GHAN,HAE,HAR,HE,HIE,HOE,IN,JHAN,JIL,KAN,KHAR,LAS,MAN,NAR,ON,PAR,PHAR,QAR,RAE,SAN,SHIN,",
  "TAN,TAR,UN,VIN,WE,XAN,YN,ZEN,ZHAR)),GERMAN PENNY SIGN,GETA MARK,GHOST,GIMEL SYMBOL,GIRAFFE ",
  "FACE,GIRL,GIRLS SYMBOL,GLAGOLITIC(CAPITAL LETTER(AZU,BIG YUS,BUKY,CAUDATE CHRIVI,CHRIVI,",
  "DJERVI,DOBRO,DZELO,FITA,FRITU,GLAGOLI,HERU,I,INITIAL IZHE,IOTATED(BIG YUS,SMALL YUS),IZHE,",
  "IZHITSA,KAKO,LATINATE MYSLITE,LJUDIJE,MYSLITE,NASHI,ONU,OTU,PE,POKOJI,RITSI,SHA,SHTA,SHTAPIC,",
  "SLOVO,SMALL YUS(,WITH TAIL),SPIDERY HA,TROKUTASTI A,TSI,TVRIDO,UKU,VEDE,YATI,YERI,YERU,YESTU,",
  "YO,YU,ZEMLJA,ZHIVETE),SMALL LETTER(AZU,BIG YUS,BUKY,CAUDATE CHRIVI,CHRIVI,DJERVI,DOBRO,DZELO,",
  "FITA,FRITU,GLAGOLI,HERU,I,INITIAL IZHE,IOTATED(BIG YUS,SMALL YUS),IZHE,IZHITSA,KAKO,LATINATE ",
  "MYSLITE,LJUDIJE,MYSLITE,NASHI,ONU,OTU,PE,POKOJI,RITSI,SHA,SHTA,SHTAPIC,SLOVO,SMALL YUS(,WITH ",
  "TAIL),SPIDERY HA,TROKUTASTI A,TSI,TVRIDO,UKU,VEDE,YATI,YERI,YERU,YESTU,YO,YU,ZEMLJA,",
  "ZHIVETE)),GLASS OF MILK,GLEICH STARK,GLOBE WITH MERIDIANS,GLOVES,GLOWING STAR,GOAL NET,GOAT,",
  "GOGGLES,GOLFER,GORILLA,GOTHIC LETTER(AHSA,AIHVUS,BAIRKAN,DAGS,EIS,FAIHU,GIBA,HAGL,HWAIR,",
  "IGGWS,IUJA,JER,KUSMA,LAGUS,MANNA,NAUTHS,NINE HUNDRED,NINETY,OTHAL,PAIRTHRA,QAIRTHRA,RAIDA,",
  "SAUIL,TEIWS,THIUTH,URUS,WINJA),GRADUATION CAP,GRANTHA(AU LENGTH MARK,LETTER(A,AA,AI,AU,BA,",
  "BHA,CA,CHA,DA,DDA,DDHA,DHA,EE,GA,GHA,HA,I,II,JA,JHA,KA,KHA,LA,LLA,MA,NA,NGA,NNA,NYA,OO,PA,",
  "PHA,RA,SA,SHA,SSA,TA,THA,TTA,TTHA,U,UU,VA,VEDIC(ANUSVARA,DOUBLE ANUSVARA),VOCALIC(L,LL,R,RR),",
  "YA),OM,SIGN(ANUSVARA,AVAGRAHA,CANDRABINDU,COMBINING ANUSVARA ABOVE,NUKTA,PLUTA,VIRAMA,",
  "VISARGA),VOWEL SIGN(AA,AI,AU,EE,I,II,OO,U,UU,VOCALIC(L,LL,R,RR))),GRAPES,GRAVE ACCENT,",
  "GREATER-THAN(ABOVE(DOUBLE-LINE EQUAL ABOVE LESS-THAN,LESS-THAN ABOVE DOUBLE-LINE EQUAL,",
  "RIGHTWARDS ARROW,SIMILAR(ABOVE LESS-THAN,OR EQUAL),SLANTED EQUAL ABOVE LESS-THAN ABOVE ",
  "SLANTED EQUAL),AND(NOT APPROXIMATE,SINGLE-LINE NOT EQUAL TO),BESIDE LESS-THAN,BUT NOT(EQUAL ",
  "TO,EQUIVALENT TO),CLOSED BY CURVE(,ABOVE SLANTED EQUAL),EQUAL TO OR LESS-THAN,OR(APPROXIMATE,",
  "EQUAL TO,EQUIVALENT TO,LESS-THAN,SLANTED EQUAL TO(,WITH DOT(ABOVE(,LEFT),INSIDE))),OVER ",
  "EQUAL TO,OVERLAPPING LESS-THAN,SIGN,WITH(CIRCLE INSIDE,DOT,QUESTION MARK ABOVE)),GREEK(",
  "ACROPHONIC(ATTIC(FIFTY(,STATERS,TALENTS,THOUSAND(,STATERS)),FIVE(,HUNDRED(,STATERS,TALENTS),",
  "STATERS,TALENTS,THOUSAND(,TALENTS)),ONE(DRACHMA,HALF,HUNDRED(STATERS,TALENTS),QUARTER,",
  "THOUSAND(STATERS,TALENTS)),TEN(MNAS,STATERS,TALENTS,THOUSAND STATERS)),CARYSTIAN FIVE ",
  "HUNDRED,CYRENAIC TWO DRACHMAS,DELPHIC FIVE MNAS,EPIDAUREAN(FIVE HUNDRED,TWO(,DRACHMAS)),",
  "HERAEUM ONE PLETHRON,HERMIONIAN(FIFTY,ONE,TEN),MESSENIAN TEN,NAXIAN FIVE HUNDRED,STRATIAN ",
  "FIFTY MNAS,THESPIAN(FIFTY,FIVE(HUNDRED,THOUSAND),ONE(,HUNDRED,THOUSAND),TEN,THIRTY,THREE ",
  "HUNDRED,TWO),TROEZENIAN(FIFTY(,ALTERNATE FORM),FIVE(,HUNDRED),TEN(,ALTERNATE FORM))),ANO ",
  "TELEIA,AROURA SIGN,ARTABE SIGN,BETA SYMBOL,CAPITAL(DOTTED LUNATE SIGMA SYMBOL,KAI SYMBOL,",
  "LETTER(ALPHA(,WITH(DASIA(,AND(OXIA(,AND PROSGEGRAMMENI),PERISPOMENI(,AND PROSGEGRAMMENI),",
  "PROSGEGRAMMENI,VARIA(,AND PROSGEGRAMMENI))),MACRON,OXIA,PROSGEGRAMMENI,PSILI(,AND(OXIA(,AND ",
  "PROSGEGRAMMENI),PERISPOMENI(,AND PROSGEGRAMMENI),PROSGEGRAMMENI,VARIA(,AND PROSGEGRAMMENI))),",
  "TONOS,VARIA,VRACHY)),ARCHAIC SAMPI,BETA,CHI,DELTA,EPSILON(,WITH(DASIA(,AND(OXIA,VARIA)),OXIA,",
  "PSILI(,AND(OXIA,VARIA)),TONOS,VARIA)),ETA(,WITH(DASIA(,AND(OXIA(,AND PROSGEGRAMMENI),",
  "PERISPOMENI(,AND PROSGEGRAMMENI),PROSGEGRAMMENI,VARIA(,AND PROSGEGRAMMENI))),OXIA,",
  "PROSGEGRAMMENI,PSILI(,AND(OXIA(,AND PROSGEGRAMMENI),PERISPOMENI(,AND PROSGEGRAMMENI),",
  "PROSGEGRAMMENI,VARIA(,AND PROSGEGRAMMENI))),TONOS,VARIA)),GAMMA,HETA,IOTA(,WITH(DASIA(,AND(",
  "OXIA,PERISPOMENI,VARIA)),DIALYTIKA,MACRON,OXIA,PSILI(,AND(OXIA,PERISPOMENI,VARIA)),TONOS,",
  "VARIA,VRACHY)),KAPPA,LAMDA,MU,NU,OMEGA(,WITH(DASIA(,AND(OXIA(,AND PROSGEGRAMMENI),",
  "PERISPOMENI(,AND PROSGEGRAMMENI),PROSGEGRAMMENI,VARIA(,AND PROSGEGRAMMENI))),OXIA,",
  "PROSGEGRAMMENI,PSILI(,AND(OXIA(,AND PROSGEGRAMMENI),PERISPOMENI(,AND PROSGEGRAMMENI),",
  "PROSGEGRAMMENI,VARIA(,AND PROSGEGRAMMENI))),TONOS,VARIA)),OMICRON(,WITH(DASIA(,AND(OXIA,",
  "VARIA)),OXIA,PSILI(,AND(OXIA,VARIA)),TONOS,VARIA)),PAMPHYLIAN DIGAMMA,PHI,PI,PSI,RHO(,WITH ",
  "DASIA),SAN,SHO,SIGMA,TAU,THETA,UPSILON(,WITH(DASIA(,AND(OXIA,PERISPOMENI,VARIA)),DIALYTIKA,",
  "MACRON,OXIA,TONOS,VARIA,VRACHY)),XI,YOT,ZETA),LUNATE SIGMA SYMBOL,REVERSED(DOTTED LUNATE ",
  "SIGMA SYMBOL,LUNATE SIGMA SYMBOL),THETA SYMBOL),DASIA(,AND(OXIA,PERISPOMENI,VARIA)),",
  "DIALYTIKA(AND(OXIA,PERISPOMENI,VARIA),TONOS),DRACHMA SIGN,FIVE OBOLS SIGN,FOUR OBOLS SIGN,",
  "GRAMMA SIGN,INDICTION SIGN,INSTRUMENTAL NOTATION(SYMBOL-1,SYMBOL-11,SYMBOL-12,SYMBOL-13,",
  "SYMBOL-14,SYMBOL-17,SYMBOL-18,SYMBOL-19,SYMBOL-2,SYMBOL-23,SYMBOL-24,SYMBOL-25,SYMBOL-26,",
  "SYMBOL-27,SYMBOL-29,SYMBOL-30,SYMBOL-32,SYMBOL-36,SYMBOL-37,SYMBOL-38,SYMBOL-39,SYMBOL-4,",
  "SYMBOL-40,SYMBOL-42,SYMBOL-43,SYMBOL-45,SYMBOL-47,SYMBOL-48,SYMBOL-49,SYMBOL-5,SYMBOL-50,",
  "SYMBOL-51,SYMBOL-52,SYMBOL-53,SYMBOL-54,SYMBOL-7,SYMBOL-8),KAI SYMBOL,KAPPA SYMBOL,KORONIS,",
  "KYATHOS BASE SIGN,LETTER(ARCHAIC KOPPA,DIGAMMA,KOPPA,SAMPI,SMALL CAPITAL(GAMMA,LAMDA,OMEGA,",
  "PI,PSI,RHO),STIGMA,YOT),LITRA SIGN,LOWER NUMERAL SIGN,LUNATE(EPSILON SYMBOL,SIGMA SYMBOL),",
  "METRETES SIGN,MUSICAL LEIMMA,NUMERAL SIGN,OBOL SIGN,ONE(HALF SIGN(,ALTERNATE FORM),QUARTER ",
  "SIGN),OUNKIA SIGN,OXIA,PERISPOMENI,PHI SYMBOL,PI SYMBOL,PROSGEGRAMMENI,PSILI(,AND(OXIA,",
  "PERISPOMENI,VARIA)),QUESTION MARK,REVERSED LUNATE EPSILON SYMBOL,RHO(SYMBOL,WITH STROKE ",
  "SYMBOL),SINUSOID SIGN,SMALL(DOTTED LUNATE SIGMA SYMBOL,LETTER(ALPHA(,WITH(DASIA(,AND(OXIA(,",
  "AND YPOGEGRAMMENI),PERISPOMENI(,AND YPOGEGRAMMENI),VARIA(,AND YPOGEGRAMMENI),YPOGEGRAMMENI)),",
  "MACRON,OXIA(,AND YPOGEGRAMMENI),PERISPOMENI(,AND YPOGEGRAMMENI),PSILI(,AND(OXIA(,AND ",
  "YPOGEGRAMMENI),PERISPOMENI(,AND YPOGEGRAMMENI),VARIA(,AND YPOGEGRAMMENI),YPOGEGRAMMENI)),",
  "TONOS,VARIA(,AND YPOGEGRAMMENI),VRACHY,YPOGEGRAMMENI)),ARCHAIC(KOPPA,SAMPI),BETA,CHI,DELTA,",
  "DIGAMMA,EPSILON(,WITH(DASIA(,AND(OXIA,VARIA)),OXIA,PSILI(,AND(OXIA,VARIA)),TONOS,VARIA)),ETA(",
  ",WITH(DASIA(,AND(OXIA(,AND YPOGEGRAMMENI),PERISPOMENI(,AND YPOGEGRAMMENI),VARIA(,AND ",
  "YPOGEGRAMMENI),YPOGEGRAMMENI)),OXIA(,AND YPOGEGRAMMENI),PERISPOMENI(,AND YPOGEGRAMMENI),",
  "PSILI(,AND(OXIA(,AND YPOGEGRAMMENI),PERISPOMENI(,AND YPOGEGRAMMENI),VARIA(,AND ",
  "YPOGEGRAMMENI),YPOGEGRAMMENI)),TONOS,VARIA(,AND YPOGEGRAMMENI),YPOGEGRAMMENI)),FINAL SIGMA,",
  "GAMMA,HETA,IOTA(,WITH(DASIA(,AND(OXIA,PERISPOMENI,VARIA)),DIALYTIKA(,AND(OXIA,PERISPOMENI,",
  "TONOS,VARIA)),MACRON,OXIA,PERISPOMENI,PSILI(,AND(OXIA,PERISPOMENI,VARIA)),TONOS,VARIA,",
  "VRACHY)),KAPPA,KOPPA,LAMDA,MU,NU,OMEGA(,WITH(DASIA(,AND(OXIA(,AND YPOGEGRAMMENI),PERISPOMENI(",
  ",AND YPOGEGRAMMENI),VARIA(,AND YPOGEGRAMMENI),YPOGEGRAMMENI)),OXIA(,AND YPOGEGRAMMENI),",
  "PERISPOMENI(,AND YPOGEGRAMMENI),PSILI(,AND(OXIA(,AND YPOGEGRAMMENI),PERISPOMENI(,AND ",
  "YPOGEGRAMMENI),VARIA(,AND YPOGEGRAMMENI),YPOGEGRAMMENI)),TONOS,VARIA(,AND YPOGEGRAMMENI),",
  "YPOGEGRAMMENI)),OMICRON(,WITH(DASIA(,AND(OXIA,VARIA)),OXIA,PSILI(,AND(OXIA,VARIA)),TONOS,",
  "VARIA)),PAMPHYLIAN DIGAMMA,PHI,PI,PSI,RHO(,WITH(DASIA,PSILI)),SAMPI,SAN,SHO,SIGMA,STIGMA,TAU,",
  "THETA,UPSILON(,WITH(DASIA(,AND(OXIA,PERISPOMENI,VARIA)),DIALYTIKA(,AND(OXIA,PERISPOMENI,",
  "TONOS,VARIA)),MACRON,OXIA,PERISPOMENI,PSILI(,AND(OXIA,PERISPOMENI,VARIA)),TONOS,VARIA,",
  "VRACHY)),XI,ZETA),REVERSED(DOTTED LUNATE SIGMA SYMBOL,LUNATE SIGMA SYMBOL)),SUBSCRIPT SMALL ",
  "LETTER(BETA,CHI,GAMMA,PHI,RHO),SYMBOL TAU RHO,TALENT SIGN,THETA SYMBOL,THREE(OBOLS SIGN,",
  "QUARTERS SIGN),TONOS,TRYBLION BASE SIGN,TWO(OBOLS SIGN,THIRDS SIGN),UPSILON WITH(ACUTE AND ",
  "HOOK SYMBOL,DIAERESIS AND HOOK SYMBOL,HOOK SYMBOL),VARIA,VOCAL NOTATION(SYMBOL-1,SYMBOL-10,",
  "SYMBOL-11,SYMBOL-12,SYMBOL-13,SYMBOL-14,SYMBOL-15,SYMBOL-16,SYMBOL-17,SYMBOL-18,SYMBOL-19,",
  "SYMBOL-2,SYMBOL-20,SYMBOL-21,SYMBOL-22,SYMBOL-23,SYMBOL-24,SYMBOL-3,SYMBOL-4,SYMBOL-5,",
  "SYMBOL-50,SYMBOL-51,SYMBOL-52,SYMBOL-53,SYMBOL-54,SYMBOL-6,SYMBOL-7,SYMBOL-8,SYMBOL-9),",
  "XESTES SIGN,YEAR SIGN,YPOGEGRAMMENI,ZERO SIGN),GREEN(APPLE,BOOK,HEART,SALAD),GRIMACING FACE,",
  "GRINNING(CAT FACE WITH SMILING EYES,FACE(,WITH(ONE LARGE AND ONE SMALL EYE,SMILING EYES,STAR ",
  "EYES))),GROUP(MARK,SEPARATOR),GROWING HEART,GS,GUARANI SIGN,GUARDSMAN,GUIDE DOG,GUITAR,",
  "GUJARATI(ABBREVIATION SIGN,DIGIT(EIGHT,FIVE,FOUR,NINE,ONE,SEVEN,SIX,THREE,TWO,ZERO),LETTER(A,",
  "AA,AI,AU,BA,BHA,CA,CHA,DA,DDA,DDHA,DHA,E,GA,GHA,HA,I,II,JA,JHA,KA,KHA,LA,LLA,MA,NA,NGA,NNA,",
  "NYA,O,PA,PHA,RA,SA,SHA,SSA,TA,THA,TTA,TTHA,U,UU,VA,VOCALIC(L,LL,R,RR),YA,ZHA),OM,RUPEE SIGN,",
  "SIGN(ANUSVARA,AVAGRAHA,CANDRABINDU,CIRCLE NUKTA ABOVE,MADDAH,NUKTA,SHADDA,SUKUN,THREE-DOT ",
  "NUKTA ABOVE,TWO-CIRCLE NUKTA ABOVE,VIRAMA,VISARGA),VOWEL(CANDRA(E,O),SIGN(AA,AI,AU,CANDRA(E,",
  "O),E,I,II,O,U,UU,VOCALIC(L,LL,R,RR)))),GUNJALA GONDI(DIGIT(EIGHT,FIVE,FOUR,NINE,ONE,SEVEN,",
  "SIX,THREE,TWO,ZERO),LETTER(A,AA,AI,AU,BA,BHA,CA,CHA,DA,DDA,DDHA,DHA,EE,GA,GHA,HA,I,II,JA,JHA,",
  "KA,KHA,LA,LLA,MA,NA,NGA,OO,PA,PHA,RA,SA,TA,THA,TTA,TTHA,U,UU,VA,YA),OM,SIGN(ANUSVARA,",
  "VISARGA),VIRAMA,VOWEL SIGN(AA,AI,AU,EE,I,II,OO,U,UU)),GURMUKHI(ABBREVIATION SIGN,ADDAK,DIGIT(",
  "EIGHT,FIVE,FOUR,NINE,ONE,SEVEN,SIX,THREE,TWO,ZERO),EK ONKAR,IRI,LETTER(A,AA,AI,AU,BA,BHA,CA,",
  "CHA,DA,DDA,DDHA,DHA,EE,FA,GA,GHA,GHHA,HA,I,II,JA,JHA,KA,KHA,KHHA,LA,LLA,MA,NA,NGA,NNA,NYA,OO,",
  "PA,PHA,RA,RRA,SA,SHA,TA,THA,TTA,TTHA,U,UU,VA,YA,ZA),SIGN(ADAK BINDI,BINDI,NUKTA,UDAAT,VIRAMA,",
  "VISARGA,YAKASH),TIPPI,URA,VOWEL SIGN(AA,AI,AU,EE,I,II,OO,U,UU)),HADES,HAIR SPACE,HAIRCUT,",
  "HALFWIDTH(BLACK SQUARE,DOWNWARDS ARROW,FORMS LIGHT VERTICAL,HANGUL(FILLER,LETTER(A,AE,",
  "CHIEUCH,CIEUC,E,EO,EU,HIEUH,I,IEUNG,KHIEUKH,KIYEOK,KIYEOK-SIOS,MIEUM,NIEUN,NIEUN-CIEUC,",
  "NIEUN-HIEUH,O,OE,PHIEUPH,PIEUP,PIEUP-SIOS,RIEUL,RIEUL-HIEUH,RIEUL-KIYEOK,RIEUL-MIEUM,",
  "RIEUL-PHIEUPH,RIEUL-PIEUP,RIEUL-SIOS,RIEUL-THIEUTH,SIOS,SSANGCIEUC,SSANGKIYEOK,SSANGPIEUP,",
  "SSANGSIOS,SSANGTIKEUT,THIEUTH,TIKEUT,U,WA,WAE,WE,WEO,WI,YA,YAE,YE,YEO,YI,YO,YU)),IDEOGRAPHIC(",
  "COMMA,FULL STOP),KATAKANA(LETTER(A,E,HA,HE,HI,HO,HU,I,KA,KE,KI,KO,KU,MA,ME,MI,MO,MU,N,NA,NE,",
  "NI,NO,NU,O,RA,RE,RI,RO,RU,SA,SE,SI,SMALL(A,E,I,O,TU,U,YA,YO,YU),SO,SU,TA,TE,TI,TO,TU,U,WA,WO,",
  "YA,YO,YU),MIDDLE DOT,SEMI-VOICED SOUND MARK,VOICED SOUND MARK),KATAKANA-HIRAGANA PROLONGED ",
  "SOUND MARK,LEFT CORNER BRACKET,LEFTWARDS ARROW,RIGHT CORNER BRACKET,RIGHTWARDS ARROW,UPWARDS ",
  "ARROW,WHITE CIRCLE),HAMBURGER,HAMMER(,AND(PICK,SICKLE,WRENCH)),HAMSA,HAMSTER FACE,HAND WITH ",
  "INDEX(AND MIDDLE FINGERS CROSSED,FINGER AND THUMB CROSSED),HANDBAG,HANDBALL,HANDSHAKE,HANGUL(",
  "CHOSEONG(CEONGCHIEUMCHIEUCH,CEONGCHIEUMCIEUC,CEONGCHIEUMSIOS,CEONGCHIEUMSSANGCIEUC,",
  "CEONGCHIEUMSSANGSIOS,CHIEUCH,CHIEUCH-HIEUH,CHIEUCH-KHIEUKH,CHITUEUMCHIEUCH,CHITUEUMCIEUC,",
  "CHITUEUMSIOS,CHITUEUMSSANGCIEUC,CHITUEUMSSANGSIOS,CIEUC,CIEUC-IEUNG,FILLER,HIEUH,HIEUH-SIOS,",
  "IEUNG,IEUNG-CHIEUCH,IEUNG-CIEUC,IEUNG-HIEUH,IEUNG-KIYEOK,IEUNG-MIEUM,IEUNG-PANSIOS,",
  "IEUNG-PHIEUPH,IEUNG-PIEUP,IEUNG-RIEUL,IEUNG-SIOS,IEUNG-THIEUTH,IEUNG-TIKEUT,KAPYEOUNMIEUM,",
  "KAPYEOUNPHIEUPH,KAPYEOUNPIEUP,KAPYEOUNRIEUL,KAPYEOUNSSANGPIEUP,KHIEUKH,KIYEOK,KIYEOK-TIKEUT,",
  "MIEUM,MIEUM-KIYEOK,MIEUM-PIEUP,MIEUM-SIOS,MIEUM-TIKEUT,NIEUN,NIEUN-CIEUC,NIEUN-HIEUH,",
  "NIEUN-KIYEOK,NIEUN-PIEUP,NIEUN-SIOS,NIEUN-TIKEUT,PANSIOS,PHIEUPH,PHIEUPH-HIEUH,PHIEUPH-PIEUP,",
  "PIEUP,PIEUP-CHIEUCH,PIEUP-CIEUC,PIEUP-HIEUH,PIEUP-KHIEUKH,PIEUP-KIYEOK,PIEUP-NIEUN,",
  "PIEUP-PHIEUPH,PIEUP-SIOS,PIEUP-SIOS-CIEUC,PIEUP-SIOS-KIYEOK,PIEUP-SIOS-PIEUP,",
  "PIEUP-SIOS-THIEUTH,PIEUP-SIOS-TIKEUT,PIEUP-SSANGSIOS,PIEUP-THIEUTH,PIEUP-TIKEUT,RIEUL,",
  "RIEUL-CIEUC,RIEUL-HIEUH,RIEUL-KAPYEOUNPIEUP,RIEUL-KHIEUKH,RIEUL-KIYEOK,RIEUL-MIEUM,",
  "RIEUL-NIEUN,RIEUL-PIEUP,RIEUL-SIOS,RIEUL-SSANGKIYEOK,RIEUL-SSANGPIEUP,RIEUL-SSANGTIKEUT,",
  "RIEUL-TIKEUT,SIOS,SIOS-CHIEUCH,SIOS-CIEUC,SIOS-HIEUH,SIOS-IEUNG,SIOS-KHIEUKH,SIOS-KIYEOK,",
  "SIOS-MIEUM,SIOS-NIEUN,SIOS-PHIEUPH,SIOS-PIEUP,SIOS-PIEUP-KIYEOK,SIOS-RIEUL,SIOS-SSANGSIOS,",
  "SIOS-THIEUTH,SIOS-TIKEUT,SSANGCIEUC,SSANGCIEUC-HIEUH,SSANGHIEUH,SSANGIEUNG,SSANGKIYEOK,",
  "SSANGNIEUN,SSANGPIEUP,SSANGRIEUL,SSANGSIOS,SSANGSIOS-PIEUP,SSANGTHIEUTH,SSANGTIKEUT,",
  "SSANGYEORINHIEUH,THIEUTH,TIKEUT,TIKEUT-CIEUC,TIKEUT-KIYEOK,TIKEUT-MIEUM,TIKEUT-PIEUP,",
  "TIKEUT-RIEUL,TIKEUT-SIOS,YEORINHIEUH,YESIEUNG),DOUBLE DOT TONE MARK,FILLER,JONGSEONG(CHIEUCH,",
  "CIEUC,CIEUC-PIEUP,CIEUC-SSANGPIEUP,HIEUH,HIEUH-MIEUM,HIEUH-NIEUN,HIEUH-PIEUP,HIEUH-RIEUL,",
  "IEUNG,IEUNG-KHIEUKH,IEUNG-KIYEOK,IEUNG-SSANGKIYEOK,KAPYEOUNMIEUM,KAPYEOUNPHIEUPH,",
  "KAPYEOUNPIEUP,KAPYEOUNRIEUL,KHIEUKH,KIYEOK,KIYEOK-CHIEUCH,KIYEOK-HIEUH,KIYEOK-KHIEUKH,",
  "KIYEOK-NIEUN,KIYEOK-PIEUP,KIYEOK-RIEUL,KIYEOK-SIOS,KIYEOK-SIOS-KIYEOK,MIEUM,MIEUM-CHIEUCH,",
  "MIEUM-CIEUC,MIEUM-HIEUH,MIEUM-KIYEOK,MIEUM-NIEUN,MIEUM-PANSIOS,MIEUM-PIEUP,MIEUM-PIEUP-SIOS,",
  "MIEUM-RIEUL,MIEUM-SIOS,MIEUM-SSANGNIEUN,MIEUM-SSANGSIOS,NIEUN,NIEUN-CHIEUCH,NIEUN-CIEUC,",
  "NIEUN-HIEUH,NIEUN-KIYEOK,NIEUN-PANSIOS,NIEUN-RIEUL,NIEUN-SIOS,NIEUN-THIEUTH,NIEUN-TIKEUT,",
  "PANSIOS,PANSIOS-KAPYEOUNPIEUP,PANSIOS-PIEUP,PHIEUPH,PHIEUPH-PIEUP,PHIEUPH-SIOS,",
  "PHIEUPH-THIEUTH,PIEUP,PIEUP-CHIEUCH,PIEUP-CIEUC,PIEUP-HIEUH,PIEUP-MIEUM,PIEUP-PHIEUPH,",
  "PIEUP-RIEUL,PIEUP-RIEUL-PHIEUPH,PIEUP-SIOS,PIEUP-SIOS-TIKEUT,PIEUP-TIKEUT,RIEUL,RIEUL-HIEUH,",
  "RIEUL-KAPYEOUNPIEUP,RIEUL-KHIEUKH,RIEUL-KIYEOK,RIEUL-KIYEOK-HIEUH,RIEUL-KIYEOK-SIOS,",
  "RIEUL-MIEUM,RIEUL-MIEUM-HIEUH,RIEUL-MIEUM-KIYEOK,RIEUL-MIEUM-SIOS,RIEUL-NIEUN,RIEUL-PANSIOS,",
  "RIEUL-PHIEUPH,RIEUL-PIEUP,RIEUL-PIEUP-HIEUH,RIEUL-PIEUP-PHIEUPH,RIEUL-PIEUP-SIOS,",
  "RIEUL-PIEUP-TIKEUT,RIEUL-SIOS,RIEUL-SSANGKIYEOK,RIEUL-SSANGSIOS,RIEUL-THIEUTH,RIEUL-TIKEUT,",
  "RIEUL-TIKEUT-HIEUH,RIEUL-YEORINHIEUH,RIEUL-YEORINHIEUH-HIEUH,RIEUL-YESIEUNG,SIOS,",
  "SIOS-CHIEUCH,SIOS-CIEUC,SIOS-HIEUH,SIOS-KAPYEOUNPIEUP,SIOS-KIYEOK,SIOS-MIEUM,SIOS-PANSIOS,",
  "SIOS-PIEUP,SIOS-RIEUL,SIOS-THIEUTH,SIOS-TIKEUT,SSANGCIEUC,SSANGIEUNG,SSANGKIYEOK,SSANGMIEUM,",
  "SSANGNIEUN,SSANGPIEUP,SSANGRIEUL,SSANGRIEUL-KHIEUKH,SSANGSIOS,SSANGSIOS-KIYEOK,",
  "SSANGSIOS-TIKEUT,SSANGTIKEUT,SSANGTIKEUT-PIEUP,SSANGYESIEUNG,THIEUTH,TIKEUT,TIKEUT-CHIEUCH,",
  "TIKEUT-CIEUC,TIKEUT-KIYEOK,TIKEUT-PIEUP,TIKEUT-RIEUL,TIKEUT-SIOS,TIKEUT-SIOS-KIYEOK,",
  "TIKEUT-THIEUTH,YEORINHIEUH,YESIEUNG,YESIEUNG-HIEUH,YESIEUNG-KHIEUKH,YESIEUNG-KIYEOK,",
  "YESIEUNG-MIEUM,YESIEUNG-PANSIOS,YESIEUNG-SIOS,YESIEUNG-SSANGKIYEOK),JUNGSEONG(A,A-EU,A-O,A-U,",
  "AE,ARAEA,ARAEA-A,ARAEA-E,ARAEA-EO,ARAEA-I,ARAEA-U,E,EO,EO-EU,EO-O,EO-U,EU,EU-A,EU-E,EU-EO,",
  "EU-EU,EU-O,EU-U,FILLER,I,I-A,I-ARAEA,I-EU,I-I,I-O,I-O-I,I-U,I-YA,I-YA-O,I-YAE,I-YE,I-YEO,",
  "I-YO,I-YU,O,O-E,O-EO,O-O,O-O-I,O-U,O-YA,O-YAE,O-YE,O-YEO,OE,SSANGARAEA,U,U-A,U-AE,U-EO-EU,",
  "U-I-I,U-U,U-YE,U-YEO,WA,WAE,WE,WEO,WI,YA,YA-O,YA-U,YA-YO,YAE,YE,YEO,YEO-O,YEO-U,YEO-YA,YI,",
  "YI-U,YO,YO-A,YO-AE,YO-EO,YO-I,YO-O,YO-YA,YO-YAE,YO-YEO,YU,YU-A,YU-AE,YU-E,YU-EO,YU-I,YU-O,",
  "YU-U,YU-YE,YU-YEO),LETTER(A,AE,ARAEA,ARAEAE,CHIEUCH,CIEUC,E,EO,EU,HIEUH,I,IEUNG,",
  "KAPYEOUNMIEUM,KAPYEOUNPHIEUPH,KAPYEOUNPIEUP,KAPYEOUNSSANGPIEUP,KHIEUKH,KIYEOK,KIYEOK-SIOS,",
  "MIEUM,MIEUM-PANSIOS,MIEUM-PIEUP,MIEUM-SIOS,NIEUN,NIEUN-CIEUC,NIEUN-HIEUH,NIEUN-PANSIOS,",
  "NIEUN-SIOS,NIEUN-TIKEUT,O,OE,PANSIOS,PHIEUPH,PIEUP,PIEUP-CIEUC,PIEUP-KIYEOK,PIEUP-SIOS,",
  "PIEUP-SIOS-KIYEOK,PIEUP-SIOS-TIKEUT,PIEUP-THIEUTH,PIEUP-TIKEUT,RIEUL,RIEUL-HIEUH,",
  "RIEUL-KIYEOK,RIEUL-KIYEOK-SIOS,RIEUL-MIEUM,RIEUL-PANSIOS,RIEUL-PHIEUPH,RIEUL-PIEUP,",
  "RIEUL-PIEUP-SIOS,RIEUL-SIOS,RIEUL-THIEUTH,RIEUL-TIKEUT,RIEUL-YEORINHIEUH,SIOS,SIOS-CIEUC,",
  "SIOS-KIYEOK,SIOS-NIEUN,SIOS-PIEUP,SIOS-TIKEUT,SSANGCIEUC,SSANGHIEUH,SSANGIEUNG,SSANGKIYEOK,",
  "SSANGNIEUN,SSANGPIEUP,SSANGSIOS,SSANGTIKEUT,THIEUTH,TIKEUT,U,WA,WAE,WE,WEO,WI,YA,YAE,YE,YEO,",
  "YEORINHIEUH,YESIEUNG,YESIEUNG-PANSIOS,YESIEUNG-SIOS,YI,YO,YO-I,YO-YA,YO-YAE,YU,YU-I,YU-YE,",
  "YU-YEO),SINGLE DOT TONE MARK),HANGZHOU NUMERAL(EIGHT,FIVE,FOUR,NINE,ONE,SEVEN,SIX,TEN,THIRTY,",
  "THREE,TWENTY,TWO),HANIFI ROHINGYA(DIGIT(EIGHT,FIVE,FOUR,NINE,ONE,SEVEN,SIX,THREE,TWO,ZERO),",
  "LETTER(A,BA,CA,DA,DDA,FA,GA,HA,JA,KA,KHA,KINNA(WA,YA),LA,MA,NA,NGA,NYA,PA,RA,RRA,SA,SHA,TA,",
  "TTA,VA,WA,YA,ZA),MARK(NA KHONNA,SAKIN),SIGN(HARBAHAY,TAHALA,TANA,TASSI),VOWEL(A,E,I,O,U)),",
  "HANUNOO(LETTER(A,BA,DA,GA,HA,I,KA,LA,MA,NA,NGA,PA,RA,SA,TA,U,WA,YA),SIGN PAMUDPOD,VOWEL SIGN(",
  "I,U)),HAPPY PERSON RAISING ONE HAND,HARD DISK,HATCHING CHICK,HATRAN(LETTER(ALEPH,AYN,BETH,",
  "DALETH-RESH,GIMEL,HE,HETH,KAPH,LAMEDH,MEM,NUN,PE,QOPH,SADHE,SAMEKH,SHIN,TAW,TETH,WAW,YODH,",
  "ZAYN),NUMBER(FIVE,ONE(,HUNDRED),TEN,TWENTY)),HEADPHONE,HEADSTONE(,GRAVEYARD SYMBOL),",
  "HEAR-NO-EVIL MONKEY,HEART(DECORATION,HANDS,WITH(ARROW,RIBBON,TIP ON THE LEFT)),HEAVY(",
  "AMPERSAND ORNAMENT,ARROW SHAFT WIDTH(ONE(,HALF,THIRD),TWO THIRDS),ASTERISK,BALLOT X,BLACK(",
  "CURVED(DOWNWARDS AND RIGHTWARDS ARROW,UPWARDS AND RIGHTWARDS ARROW),HEART),BLACK-FEATHERED(",
  "NORTH EAST ARROW,RIGHTWARDS ARROW,SOUTH EAST ARROW),CHECK MARK,CHEVRON SNOWFLAKE,CIRCLE(,",
  "WITH(CIRCLE INSIDE,STROKE AND TWO DOTS ABOVE)),CIRCLED SALTIRE,CONCAVE-POINTED BLACK ",
  "RIGHTWARDS ARROW,DASHED TRIANGLE-HEADED RIGHTWARDS ARROW,DIVISION SIGN,DOLLAR SIGN,DOUBLE(",
  "COMMA QUOTATION MARK ORNAMENT,TURNED COMMA QUOTATION MARK ORNAMENT),DOWNWARDS ARROW WITH(",
  "EQUILATERAL ARROWHEAD,LARGE EQUILATERAL ARROWHEAD),EIGHT(POINTED(BLACK STAR,PINWHEEL STAR,",
  "RECTILINEAR BLACK STAR),SPOKED ASTERISK,TEARDROP-SPOKED PROPELLER ASTERISK),EQUALS SIGN,",
  "EXCLAMATION MARK(ORNAMENT,SYMBOL),FIVE(POINTED BLACK STAR,SPOKED ASTERISK),FOUR ",
  "BALLOON-SPOKED ASTERISK,GREEK CROSS,HEART EXCLAMATION MARK ORNAMENT,HORIZONTAL FILL,",
  "INTERROBANG ORNAMENT,LARGE CIRCLE,LATIN CROSS,LEFT-POINTING ANGLE(BRACKET ORNAMENT,QUOTATION ",
  "MARK ORNAMENT),LEFTWARDS ARROW WITH(EQUILATERAL ARROWHEAD,LARGE EQUILATERAL ARROWHEAD),",
  "LIGATURE OPEN ET ORNAMENT,LOW(DOUBLE COMMA QUOTATION MARK ORNAMENT,SINGLE COMMA QUOTATION ",
  "MARK ORNAMENT),LOWER RIGHT-SHADOWED WHITE RIGHTWARDS ARROW,MINUS SIGN,MULTIPLICATION X,NORTH(",
  "EAST(ARROW,POINTING(BUD,VINE LEAF)),WEST POINTING(BUD,VINE LEAF)),OPEN CENTRE CROSS,OUTLINED ",
  "BLACK STAR,OVAL WITH OVAL INSIDE,PLUS SIGN,RIGHT-POINTING ANGLE(BRACKET ORNAMENT,QUOTATION ",
  "MARK ORNAMENT),RIGHTWARDS ARROW(,WITH(EQUILATERAL ARROWHEAD,LARGE EQUILATERAL ARROWHEAD)),",
  "ROUND-TIPPED RIGHTWARDS ARROW,SALTIRE,SANS-SERIF INTERROBANG ORNAMENT,SCRIPT LIGATURE ET ",
  "ORNAMENT,SINGLE(COMMA QUOTATION MARK ORNAMENT,TURNED COMMA QUOTATION MARK ORNAMENT),SIX(",
  "POINTED BLACK STAR,SPOKED ASTERISK),SOUTH(EAST(ARROW,POINTING(BUD,VINE LEAF)),WEST POINTING(",
  "BUD,VINE LEAF)),SPARKLE,TEARDROP-SHANKED RIGHTWARDS ARROW,TEARDROP-SPOKED(ASTERISK,PINWHEEL ",
  "ASTERISK),TRIANGLE-HEADED RIGHTWARDS ARROW,TWELVE POINTED(BLACK STAR,PINWHEEL STAR),UPPER ",
  "RIGHT-SHADOWED WHITE RIGHTWARDS ARROW,UPWARDS ARROW WITH(EQUILATERAL ARROWHEAD,LARGE ",
  "EQUILATERAL ARROWHEAD),VERTICAL BAR,WEDGE-TAILED RIGHTWARDS ARROW,WHITE(CIRCLE,DOWN-POINTING ",
  "TRIANGLE,SQUARE),WIDE-HEADED RIGHTWARDS ARROW),HEBREW(ACCENT(ATNAH HAFUKH,DARGA,DEHI,ETNAHTA,",
  "GERESH(,MUQDAM),GERSHAYIM,ILUY,MAHAPAKH,MERKHA(,KEFULA),MUNAH,OLE,PASHTA,PAZER,QADMA,QARNEY ",
  "PARA,REVIA,SEGOL,SHALSHELET,TELISHA(GEDOLA,QETANA),TEVIR,TIPEHA,YERAH BEN YOMO,YETIV,ZAQEF(",
  "GADOL,QATAN),ZARQA,ZINOR),LETTER(ALEF(,WITH(MAPIQ,PATAH,QAMATS)),ALTERNATIVE(AYIN,PLUS SIGN),",
  "AYIN,BET(,WITH(DAGESH,RAFE)),DALET(,WITH DAGESH),FINAL(KAF(,WITH DAGESH),MEM,NUN,PE(,WITH ",
  "DAGESH),TSADI),GIMEL(,WITH DAGESH),HE(,WITH MAPIQ),HET,KAF(,WITH(DAGESH,RAFE)),LAMED(,WITH ",
  "DAGESH),MEM(,WITH DAGESH),NUN(,WITH DAGESH),PE(,WITH(DAGESH,RAFE)),QOF(,WITH DAGESH),RESH(,",
  "WITH DAGESH),SAMEKH(,WITH DAGESH),SHIN(,WITH(DAGESH(,AND(SHIN DOT,SIN DOT)),SHIN DOT,SIN ",
  "DOT)),TAV(,WITH DAGESH),TET(,WITH DAGESH),TSADI(,WITH DAGESH),VAV(,WITH(DAGESH,HOLAM)),WIDE(",
  "ALEF,DALET,FINAL MEM,HE,KAF,LAMED,RESH,TAV),YOD(,WITH(DAGESH,HIRIQ)),ZAYIN(,WITH DAGESH)),",
  "LIGATURE(ALEF LAMED,YIDDISH(DOUBLE(VAV,YOD),VAV YOD,YOD YOD PATAH)),MARK(LOWER DOT,MASORA ",
  "CIRCLE,UPPER DOT),POINT(DAGESH OR MAPIQ,HATAF(PATAH,QAMATS,SEGOL),HIRIQ,HOLAM(,HASER FOR ",
  "VAV),JUDEO-SPANISH VARIKA,METEG,PATAH,QAMATS(,QATAN),QUBUTS,RAFE,SEGOL,SHEVA,SHIN DOT,SIN ",
  "DOT,TSERE),PUNCTUATION(GERESH,GERSHAYIM,MAQAF,NUN HAFUKHA,PASEQ,SOF PASUQ),YOD TRIANGLE),",
  "HEDGEHOG,HELICOPTER,HELLSCHREIBER PAUSE SYMBOL,HELM SYMBOL,HELMET WITH WHITE CROSS,",
  "HENTAIGANA LETTER(A-1,A-2,A-3,A-WO,E-1,E-2,E-3,E-4,E-5,E-6,HA-1,HA-10,HA-11,HA-2,HA-3,HA-4,",
  "HA-5,HA-6,HA-7,HA-8,HA-9,HE-1,HE-2,HE-3,HE-4,HE-5,HE-6,HE-7,HI-1,HI-2,HI-3,HI-4,HI-5,HI-6,",
  "HI-7,HO-1,HO-2,HO-3,HO-4,HO-5,HO-6,HO-7,HO-8,HU-1,HU-2,HU-3,I-1,I-2,I-3,I-4,KA-1,KA-10,KA-11,",
  "KA-2,KA-3,KA-4,KA-5,KA-6,KA-7,KA-8,KA-9,KA-KE,KE-1,KE-2,KE-3,KE-4,KE-5,KE-6,KI-1,KI-2,KI-3,",
  "KI-4,KI-5,KI-6,KI-7,KI-8,KO-1,KO-2,KO-3,KO-KI,KU-1,KU-2,KU-3,KU-4,KU-5,KU-6,KU-7,MA-1,MA-2,",
  "MA-3,MA-4,MA-5,MA-6,MA-7,ME-1,ME-2,ME-MA,MI-1,MI-2,MI-3,MI-4,MI-5,MI-6,MI-7,MO-1,MO-2,MO-3,",
  "MO-4,MO-5,MO-6,MU-1,MU-2,MU-3,MU-4,N-MU-MO-1,N-MU-MO-2,NA-1,NA-2,NA-3,NA-4,NA-5,NA-6,NA-7,",
  "NA-8,NA-9,NE-1,NE-2,NE-3,NE-4,NE-5,NE-6,NE-KO,NI-1,NI-2,NI-3,NI-4,NI-5,NI-6,NI-7,NI-TE,NO-1,",
  "NO-2,NO-3,NO-4,NO-5,NU-1,NU-2,NU-3,O-1,O-2,O-3,RA-1,RA-2,RA-3,RA-4,RE-1,RE-2,RE-3,RE-4,RI-1,",
  "RI-2,RI-3,RI-4,RI-5,RI-6,RI-7,RO-1,RO-2,RO-3,RO-4,RO-5,RO-6,RU-1,RU-2,RU-3,RU-4,RU-5,RU-6,",
  "SA-1,SA-2,SA-3,SA-4,SA-5,SA-6,SA-7,SA-8,SE-1,SE-2,SE-3,SE-4,SE-5,SI-1,SI-2,SI-3,SI-4,SI-5,",
  "SI-6,SO-1,SO-2,SO-3,SO-4,SO-5,SO-6,SO-7,SU-1,SU-2,SU-3,SU-4,SU-5,SU-6,SU-7,SU-8,TA-1,TA-2,",
  "TA-3,TA-4,TE-1,TE-2,TE-3,TE-4,TE-5,TE-6,TE-7,TE-8,TE-9,TI-1,TI-2,TI-3,TI-4,TI-5,TI-6,TI-7,",
  "TO-1,TO-2,TO-3,TO-4,TO-5,TO-6,TO-RA,TU-1,TU-2,TU-3,TU-4,TU-TO,U-1,U-2,U-3,U-4,U-5,WA-1,WA-2,",
  "WA-3,WA-4,WA-5,WE-1,WE-2,WE-3,WE-4,WI-1,WI-2,WI-3,WI-4,WI-5,WO-1,WO-2,WO-3,WO-4,WO-5,WO-6,",
  "WO-7,YA-1,YA-2,YA-3,YA-4,YA-5,YA-YO,YO-1,YO-2,YO-3,YO-4,YO-5,YO-6,YU-1,YU-2,YU-3,YU-4),HERB,",
  "HERMITIAN CONJUGATE MATRIX,HEXAGRAM FOR(ABUNDANCE,AFTER COMPLETION,APPROACH,BEFORE ",
  "COMPLETION,BITING THROUGH,BREAKTHROUGH,COMING TO MEET,CONFLICT,CONTEMPLATION,DARKENING OF ",
  "THE LIGHT,DECREASE,DELIVERANCE,DEVELOPMENT,DIFFICULTY AT THE BEGINNING,DISPERSION,DURATION,",
  "ENTHUSIASM,FELLOWSHIP,FOLLOWING,GATHERING TOGETHER,GRACE,GREAT(POSSESSION,POWER,",
  "PREPONDERANCE,TAMING),HOLDING TOGETHER,INCREASE,INFLUENCE,INNER TRUTH,INNOCENCE,LIMITATION,",
  "MODESTY,MOUTH CORNERS,OBSTRUCTION,OPPOSITION,OPPRESSION,PEACE,PROGRESS,PUSHING UPWARD,",
  "RETREAT,RETURN,REVOLUTION,SMALL(PREPONDERANCE,TAMING),SPLITTING APART,STANDSTILL,THE(ABYSMAL ",
  "WATER,ARMY,AROUSING THUNDER,CAULDRON,CLINGING FIRE,CREATIVE HEAVEN,FAMILY,GENTLE WIND,JOYOUS ",
  "LAKE,KEEPING STILL MOUNTAIN,MARRYING MAIDEN,RECEPTIVE EARTH,WANDERER,WELL),TREADING,WAITING,",
  "WORK ON THE DECAYED,YOUTHFUL FOLLY),HIBISCUS,HIGH(BRIGHTNESS SYMBOL,OCTET PRESET,VOLTAGE ",
  "SIGN),HIGH-HEELED SHOE,HIGH-SPEED TRAIN(,WITH BULLET NOSE),HIKING BOOT,HINDU TEMPLE,",
  "HIPPOPOTAMUS,HIRAGANA(DIGRAPH YORI,ITERATION MARK,LETTER(A,ARCHAIC(WU,YE),BA,BE,BI,BO,BU,DA,",
  "DE,DI,DO,DU,E,GA,GE,GI,GO,GU,HA,HE,HI,HO,HU,I,KA,KE,KI,KO,KU,MA,ME,MI,MO,MU,N,NA,NE,NI,NO,NU,",
  "O,PA,PE,PI,PO,PU,RA,RE,RI,RO,RU,SA,SE,SI,SMALL(A,E,I,KA,KE,O,TU,U,WA,WE,WI,WO,YA,YO,YU),SO,",
  "SU,TA,TE,TI,TO,TU,U,VU,WA,WE,WI,WO,YA,YO,YU,ZA,ZE,ZI,ZO,ZU),VOICED ITERATION MARK),HISTORIC ",
  "SITE,HOCHO,HOLE,HOLLOW QUILT SQUARE ORNAMENT(,IN BLACK SQUARE),HOMOTHETIC,HONEY POT,HONEYBEE,",
  "HOOK,HOP,HORIZONTAL(BAR,BLACK(HEXAGON,OCTAGON),ELLIPSIS,LINE EXTENSION,MALE WITH STROKE SIGN,",
  "ONE EIGHTH(BLOCK-1358,BLOCK-2,BLOCK-3,BLOCK-4,BLOCK-5,BLOCK-6,BLOCK-7),SCAN(LINE-1,LINE-3,",
  "LINE-7,LINE-9),TAB KEY,TABULATION(,SET,WITH JUSTIFICATION),TRAFFIC LIGHT),HORSE(,FACE,",
  "RACING),HOSPITAL,HOT(BEVERAGE,DOG,PEPPER,SPRINGS),HOTEL,HOURGLASS(,WITH FLOWING SAND),HOUSE(,",
  "BUILDING,BUILDINGS,WITH GARDEN),HRYVNIA SIGN,HT,HTJ,HTS,HUGGING FACE,HUNDRED POINTS SYMBOL,",
  "HUSHED FACE,HUT,HYGIEA,HYPHEN(,BULLET,WITH DIAERESIS),HYPHEN-MINUS,HYPHENATION POINT,",
  "HYPODIASTOLE,HYSTERESIS SYMBOL,I LOVE YOU HAND SIGN,ICE(CREAM,CUBE,HOCKEY STICK AND PUCK,",
  "SKATE),IDENTICAL(TO(,AND SLANTED PARALLEL),WITH DOT ABOVE),IDENTIFICATION CARD,IDEOGRAPHIC(",
  "ANNOTATION(BOTTOM MARK,EARTH MARK,FIRST MARK,FOUR MARK,FOURTH MARK,HEAVEN MARK,LINKING MARK,",
  "MAN MARK,MIDDLE MARK,ONE MARK,REVERSE MARK,SECOND MARK,THIRD MARK,THREE MARK,TOP MARK,TWO ",
  "MARK),CLOSING MARK,COMMA,DEPARTING TONE MARK,DESCRIPTION CHARACTER(ABOVE TO(BELOW,MIDDLE AND ",
  "BELOW),FULL SURROUND,LEFT TO(MIDDLE AND RIGHT,RIGHT),OVERLAID,SURROUND FROM(ABOVE,BELOW,LEFT,",
  "LOWER LEFT,UPPER(LEFT,RIGHT))),ENTERING TONE MARK,FULL STOP,HALF FILL SPACE,ITERATION MARK,",
  "LEVEL TONE MARK,NUMBER ZERO,RISING TONE MARK,SPACE,TALLY MARK(FIVE,FOUR,ONE,THREE,TWO),",
  "TELEGRAPH(LINE FEED SEPARATOR SYMBOL,SYMBOL FOR(APRIL,AUGUST,DAY(EIGHT,EIGHTEEN,ELEVEN,",
  "FIFTEEN,FIVE,FOUR,FOURTEEN,NINE,NINETEEN,ONE,SEVEN,SEVENTEEN,SIX,SIXTEEN,TEN,THIRTEEN,THIRTY,",
  "THIRTY-ONE,THREE,TWELVE,TWENTY,TWENTY-EIGHT,TWENTY-FIVE,TWENTY-FOUR,TWENTY-NINE,TWENTY-ONE,",
  "TWENTY-SEVEN,TWENTY-SIX,TWENTY-THREE,TWENTY-TWO,TWO),DECEMBER,FEBRUARY,HOUR(EIGHT,EIGHTEEN,",
  "ELEVEN,FIFTEEN,FIVE,FOUR,FOURTEEN,NINE,NINETEEN,ONE,SEVEN,SEVENTEEN,SIX,SIXTEEN,TEN,THIRTEEN,",
  "THREE,TWELVE,TWENTY,TWENTY-FOUR,TWENTY-ONE,TWENTY-THREE,TWENTY-TWO,TWO,ZERO),JANUARY,JULY,",
  "JUNE,MARCH,MAY,NOVEMBER,OCTOBER,SEPTEMBER)),VARIATION INDICATOR),IMAGE OF(,OR APPROXIMATELY ",
  "EQUAL TO),IMP,IMPERIAL ARAMAIC(LETTER(ALEPH,AYIN,BETH,DALETH,GIMEL,HE,HETH,KAPH,LAMEDH,MEM,",
  "NUN,PE,QOPH,RESH,SADHE,SAMEKH,SHIN,TAW,TETH,WAW,YODH,ZAYIN),NUMBER(ONE(,HUNDRED,THOUSAND),",
  "TEN(,THOUSAND),THREE,TWENTY,TWO),SECTION SIGN),INBOX TRAY,INCOMING ENVELOPE,INCOMPLETE ",
  "INFINITY,INCREASE FONT SIZE SYMBOL,INCREASES AS,INCREMENT,IND,INDEX(,POINTING AT THE VIEWER),",
  "INDIAN RUPEE SIGN,INDIC SIYAQ(ALTERNATE LAKH MARK,FRACTION(ONE(HALF,QUARTER),THREE QUARTERS),",
  "LAKH MARK,NUMBER(ALTERNATE(ONE,TEN THOUSAND,TWO),EIGHT(,HUNDRED,THOUSAND),EIGHTY(,THOUSAND),",
  "FIFTY(,THOUSAND),FIVE(,HUNDRED,THOUSAND),FORTY(,THOUSAND),FOUR(,HUNDRED,THOUSAND),KAROR,",
  "KARORAN,LAKH,LAKHAN,NINE(,HUNDRED,THOUSAND),NINETY(,THOUSAND),ONE(,HUNDRED,THOUSAND),",
  "PREFIXED(EIGHT,FIVE,FOUR,NINE,ONE,SEVEN,SIX,THREE,TWO),SEVEN(,HUNDRED,THOUSAND),SEVENTY(,",
  "THOUSAND),SIX(,HUNDRED,THOUSAND),SIXTY(,THOUSAND),TEN(,THOUSAND),THIRTY(,THOUSAND),THREE(,",
  "HUNDRED,THOUSAND),TWENTY(,THOUSAND),TWO(,HUNDRED,THOUSAND)),PLACEHOLDER,RUPEE MARK),INFINITY(",
  ",NEGATED WITH VERTICAL BAR),INFORMATION(DESK PERSON,SEPARATOR(FOUR,ONE,THREE,TWO),SOURCE),",
  "INHIBIT(ARABIC FORM SHAPING,SYMMETRIC SWAPPING),INPUT SYMBOL FOR(LATIN(CAPITAL LETTERS,",
  "LETTERS,SMALL LETTERS),NUMBERS,SYMBOLS),INSCRIPTIONAL(PAHLAVI(LETTER(ALEPH,BETH,DALETH,GIMEL,",
  "HE,HETH,KAPH,LAMEDH,MEM-QOPH,NUN,PE,SADHE,SAMEKH,SHIN,TAW,TETH,WAW-AYIN-RESH,YODH,ZAYIN),",
  "NUMBER(FOUR,ONE(,HUNDRED,THOUSAND),TEN,THREE,TWENTY,TWO)),PARTHIAN(LETTER(ALEPH,AYIN,BETH,",
  "DALETH,GIMEL,HE,HETH,KAPH,LAMEDH,MEM,NUN,PE,QOPH,RESH,SADHE,SAMEKH,SHIN,TAW,TETH,WAW,YODH,",
  "ZAYIN),NUMBER(FOUR,ONE(,HUNDRED,THOUSAND),TEN,THREE,TWENTY,TWO))),INSERTION SYMBOL,INTEGRAL(,",
  "AROUND A POINT OPERATOR,AVERAGE WITH SLASH,EXTENSION,WITH(DOUBLE STROKE,INTERSECTION,",
  "LEFTWARDS ARROW WITH HOOK,OVERBAR,TIMES SIGN,UNDERBAR,UNION)),INTERCALATE,INTERIOR PRODUCT,",
  "INTERLINEAR ANNOTATION(ANCHOR,SEPARATOR,TERMINATOR),INTERLOCKED FEMALE AND MALE SIGN,",
  "INTERROBANG,INTERSECTION(,ABOVE(BAR ABOVE UNION,UNION),BESIDE AND JOINED WITH INTERSECTION,",
  "WITH(DOT,LOGICAL AND,OVERBAR)),INVERSE(BULLET,CHECK MARK,CHECKER BOARD FILL,DOWNWARDS ARROW ",
  "WITH TIP LEFTWARDS,MEDIUM SHADE,WHITE CIRCLE),INVERTED(EXCLAMATION MARK,INTERROBANG,LAZY S,",
  "LOW KAVYKA(,WITH KAVYKA ABOVE),OHM SIGN,PENTAGRAM,QUESTION MARK,UNDERTIE),INVISIBLE(PLUS,",
  "SEPARATOR,TIMES),IZAKAYA LANTERN,JACK-O-LANTERN,JAPANESE(BANK SYMBOL,CASTLE,DOLLS,GOBLIN,",
  "INDUSTRIAL STANDARD SYMBOL,OGRE,POST OFFICE,SYMBOL FOR BEGINNER),JAR,JAVANESE(CONSONANT SIGN(",
  "CAKRA,KERET,PENGKAL),DIGIT(EIGHT,FIVE,FOUR,NINE,ONE,SEVEN,SIX,THREE,TWO,ZERO),LEFT RERENGGAN,",
  "LETTER(A,AI,BA(,MURDA),CA(,MURDA),DA(,MAHAPRANA),DDA(,MAHAPRANA),E,GA(,MURDA),HA,I(,KAWI),II,",
  "JA(,MAHAPRANA),KA(,MURDA,SASAK),LA,MA,NA(,MURDA),NGA(,LELET(,RASWADI)),NYA(,MURDA),O,PA(,",
  "CEREK,MURDA),RA(,AGUNG),SA(,MAHAPRANA,MURDA),TA(,MURDA),TTA(,MAHAPRANA),U,WA,YA),PADA(ADEG(,",
  "ADEG),ANDAP,ISEN-ISEN,LINGSA,LUHUR,LUNGSI,MADYA,PANGKAT,PISELEH,TIRTA TUMETES,WINDU),PANGKON,",
  "PANGRANGKEP,RIGHT RERENGGAN,SIGN(CECAK(,TELU),LAYAR,PANYANGGA,WIGNYAN),TURNED PADA PISELEH,",
  "VOWEL SIGN(DIRGA MURE,PEPET,SUKU(,MENDUT),TALING,TARUNG,TOLONG,WULU(,MELIK))),JEANS,JIGSAW ",
  "PUZZLE PIECE,JOIN,JOYSTICK,JUGGLING,JUNO,JUPITER,KAABA,KAITHI(ABBREVIATION SIGN,DANDA,DOUBLE(",
  "DANDA,SECTION MARK),ENUMERATION SIGN,LETTER(A,AA,AI,AU,BA,BHA,CA,CHA,DA,DDA,DDDHA,DDHA,DHA,E,",
  "GA,GHA,HA,I,II,JA,JHA,KA,KHA,LA,MA,NA,NGA,NNA,NYA,O,PA,PHA,RA,RHA,SA,SHA,SSA,TA,THA,TTA,TTHA,",
  "U,UU,VA,YA),NUMBER SIGN(,ABOVE),SECTION MARK,SIGN(ANUSVARA,CANDRABINDU,NUKTA,VIRAMA,VISARGA),",
  "VOWEL SIGN(AA,AI,AU,E,I,II,O,U,UU,VOCALIC R)),KANGAROO,KANGXI RADICAL(AGAIN,AND,ARRIVE,ARROW,",
  "AXE,BADGER,BAMBOO,BEAN,BIG,BIRD,BITTER,BLACK,BLOOD,BLUE,BOAT,BODY,BOLT OF CLOTH,BONE,BOW,",
  "BRANCH,BRISTLE,BRUSH,CART,CAULDRON,CAVE,CHILD,CITY,CLAN,CLAW,CLIFF,CLOTHES,COLOR,COMPARE,",
  "CORPSE,COVER,COW,DEATH,DEER,DIPPER,DISH,DISTINGUISH,DIVINATION,DO NOT,DOG,DOOR,DOT,DOTTED(",
  "CLIFF,TENT),DOUBLE X,DOWN BOX,DRAGON,DRUM,DRY,EAR,EARTH,EAT,EIGHT,EMBROIDERY,ENCLOSURE,ENTER,",
  "EVEN,EVENING,EYE,FACE,FANG,FATHER,FEATHER,FIELD,FIGHT,FIRE,FISH,FLUTE,FLY,FOOT,FRAGRANT,FROG,",
  "FUR,GATE,GHOST,GO(,SLOWLY),GOLD,GRAIN,GRASS,HAIR,HALBERD,HALF TREE TRUNK,HAND,HEAD,HEART,",
  "HEMP,HIDING ENCLOSURE,HOOK,HORN,HORSE,ICE,INCH,INSECT,JADE,JAR,KNIFE,LACK,LAME,LEAF,LEATHER,",
  "LEEK,LEGS,LID,LIFE,LINE,LONG(,STRIDE),MAN,MEAT,MELON,MILLET,MINISTER,MOON,MORNING,MORTAR,",
  "MOUND,MOUNTAIN,MOUTH,NET,NOSE,NOT,OLD,ONE,ONESELF,OPEN BOX,OPPOSE,PIG,PLOW,POWER,PRIVATE,",
  "PROFOUND,RAIN,RAP,RAT,RED,RICE,RIGHT OPEN BOX,RIVER,ROOF,RUN,SACRIFICIAL WINE,SALT,SAY,",
  "SCHOLAR,SCRIPT,SEAL,SECOND,SEE,SELF,SHEEP,SHELL,SHOOT,SHORT(TAILED BIRD,THREAD),SICKNESS,",
  "SILK,SKIN,SLASH,SLAVE,SLICE,SMALL,SNOUT,SOUND,SPEAR,SPEECH,SPIRIT,SPOON,SPROUT,SQUARE,STAND,",
  "STEAM,STEP,STONE,STOP,STOPPING,SUN,SWEET,TABLE,TALL,TANNED LEATHER,TEN,TIGER,TILE,TONGUE,",
  "TOOTH,TRACK,TREE,TRIPOD,TURBAN,TURTLE,TWO(,HANDS),USE,VALLEY,VILLAGE,WALK(,ENCLOSURE),WATER,",
  "WEAPON,WEST,WHEAT,WHITE,WIND,WINE,WOMAN,WORK,WRAP,WRONG,YELLOW),KANNADA(AI LENGTH MARK,DIGIT(",
  "EIGHT,FIVE,FOUR,NINE,ONE,SEVEN,SIX,THREE,TWO,ZERO),LENGTH MARK,LETTER(A,AA,AI,AU,BA,BHA,CA,",
  "CHA,DA,DDA,DDHA,DHA,E,EE,FA,GA,GHA,HA,I,II,JA,JHA,KA,KHA,LA,LLA,LLLA,MA,NA,NAKAARA POLLU,NGA,",
  "NNA,NYA,O,OO,PA,PHA,RA,RRA,SA,SHA,SSA,TA,THA,TTA,TTHA,U,UU,VA,VOCALIC(L,LL,R,RR),YA),SIGN(",
  "ANUSVARA,AVAGRAHA,CANDRABINDU,JIHVAMULIYA,NUKTA,SIDDHAM,SPACING CANDRABINDU,UPADHMANIYA,",
  "VIRAMA,VISARGA),VOWEL SIGN(AA,AI,AU,E,EE,I,II,O,OO,U,UU,VOCALIC(L,LL,R,RR))),KATAKANA(",
  "DIGRAPH KOTO,ITERATION MARK,LETTER(A,ARCHAIC(E,WU,YE,YI),BA,BE,BI,BO,BU,DA,DE,DI,DO,DU,E,GA,",
  "GE,GI,GO,GU,HA,HE,HI,HO,HU,I,KA,KE,KI,KO,KU,MA,ME,MI,MINNAN(NASALIZED(TONE-1,TONE-2,TONE-3,",
  "TONE-4,TONE-5,TONE-7,TONE-8),TONE-2,TONE-3,TONE-4,TONE-5,TONE-7,TONE-8),MO,MU,N,NA,NE,NI,NO,",
  "NU,O,PA,PE,PI,PO,PU,RA,RE,RI,RO,RU,SA,SE,SI,SMALL(A,E,HA,HE,HI,HO,HU,I,KA,KE,KU,MU,N,NU,O,RA,",
  "RE,RI,RO,RU,SI,SU,TO,TU,U,WA,WE,WI,WO,YA,YO,YU),SO,SU,TA,TE,TI,TO,TU,U,VA,VE,VI,VO,VU,WA,WE,",
  "WI,WO,YA,YO,YU,ZA,ZE,ZI,ZO,ZU),MIDDLE DOT,VOICED ITERATION MARK),KATAKANA-HIRAGANA(DOUBLE ",
  "HYPHEN,PROLONGED SOUND MARK,SEMI-VOICED SOUND MARK,VOICED SOUND MARK),KAYAH LI(DIGIT(EIGHT,",
  "FIVE,FOUR,NINE,ONE,SEVEN,SIX,THREE,TWO,ZERO),LETTER(A,BA,CA,DA,GA,HA,HTA,I,KA,KHA,LA,MA,NA,",
  "NGA,NYA,OE,OO,PA,PHA,RA,SA,SHA,TA,THA,VA,WA,YA,ZA),SIGN(CWI,SHYA),TONE(CALYA(,PLOPHU),",
  "PLOPHU),VOWEL(E,EE,O,U,UE)),KELVIN SIGN,KEY,KEYBOARD(,AND MOUSE),KEYCAP TEN,KHAROSHTHI(DIGIT(",
  "FOUR,ONE,THREE,TWO),FRACTION ONE HALF,LETTER(A,BA,BHA,CA,CHA,DA,DDA,DDHA,DHA,GA,GHA,HA,JA,KA,",
  "KHA,KKA,LA,MA,NA,NNA,NYA,PA,PHA,RA,SA,SHA,SSA,TA,THA,TTA,TTHA,TTTA,TTTHA,VA,VHA,YA,ZA),",
  "NUMBER(ONE(HUNDRED,THOUSAND),TEN,TWENTY),PUNCTUATION(CIRCLE,CRESCENT BAR,DANDA,DOT,DOUBLE ",
  "DANDA,LINES,LOTUS,MANGALAM,SMALL CIRCLE),SIGN(ANUSVARA,BAR ABOVE,CAUDA,DOT BELOW,DOUBLE RING ",
  "BELOW,VISARGA),VIRAMA,VOWEL(LENGTH MARK,SIGN(E,I,O,U,VOCALIC R))),KHITAN SMALL SCRIPT FILLER,",
  "KHMER(CURRENCY SYMBOL RIEL,DIGIT(EIGHT,FIVE,FOUR,NINE,ONE,SEVEN,SIX,THREE,TWO,ZERO),",
  "INDEPENDENT VOWEL(LY,LYY,QAA,QAI,QAQ,QAU,QE,QI,QII,QOO TYPE(ONE,TWO),QU,QUK,QUU,QUUV,RY,RYY),",
  "LETTER(BA,CA,CHA,CHO,CO,DA,DO,HA,KA,KHA,KHO,KO,LA,LO,MO,NGO,NNO,NO,NYO,PHA,PHO,PO,QA,RO,SA,",
  "SHA,SSO,TA,THA,THO,TO,TTHA,TTHO,VO,YO),SIGN(AHSDA,ATTHACAN,AVAKRAHASANYA,BANTOC,BARIYOOSAN,",
  "BATHAMASAT,BEYYAL,CAMNUC PII KUUH,COENG,KAKABAT,KHAN,KOOMUUT,LEK TOO,MUUSIKATOAN,NIKAHIT,",
  "PHNAEK MUAN,REAHMUK,ROBAT,SAMYOK SANNYA,TOANDAKHIAT,TRIISAP,VIRIAM,YUUKALEAPINTU),SYMBOL(BEI(",
  "KOET,ROC),BUON(KOET,ROC),DAP(KOET,ROC),DAP-BEI(KOET,ROC),DAP-BUON(KOET,ROC),DAP-MUOY(KOET,",
  "ROC),DAP-PII(KOET,ROC),DAP-PRAM(KOET,ROC),LEK ATTAK(BEI,BUON,MUOY,PII,PRAM,PRAM-BEI,",
  "PRAM-BUON,PRAM-MUOY,PRAM-PII,SON),MUOY(KOET,ROC),PATHAMASAT,PII(KOET,ROC),PRAM(KOET,ROC),",
  "PRAM-BEI(KOET,ROC),PRAM-BUON(KOET,ROC),PRAM-MUOY(KOET,ROC),PRAM-PII(KOET,ROC),TUTEYASAT),",
  "VOWEL(INHERENT(AA,AQ),SIGN(AA,AE,AI,AU,E,I,IE,II,OE,OO,U,UA,UU,Y,YA,YY))),KHOJKI(",
  "ABBREVIATION SIGN,DANDA,DOUBLE(DANDA,SECTION MARK),LETTER(A,AA,AI,AU,BA,BBA,BHA,CA,CHA,DA,",
  "DDA,DDDA,DDHA,DHA,E,GA,GGA,GHA,HA,I,JA,JJA,KA,KHA,LA,LLA,MA,NA,NGA,NNA,NYA,O,PA,PHA,RA,SA,TA,",
  "THA,TTA,TTHA,U,VA,YA),SECTION MARK,SIGN(ANUSVARA,NUKTA,SHADDA,SUKUN,VIRAMA),VOWEL SIGN(AA,AI,",
  "AU,E,I,II,O,U),WORD SEPARATOR),KHUDAWADI(DIGIT(EIGHT,FIVE,FOUR,NINE,ONE,SEVEN,SIX,THREE,TWO,",
  "ZERO),LETTER(A,AA,AI,AU,BA,BBA,BHA,CA,CHA,DA,DDA,DDDA,DDHA,DHA,E,GA,GGA,GHA,HA,I,II,JA,JHA,",
  "JJA,KA,KHA,LA,MA,NA,NGA,NNA,NYA,O,PA,PHA,RA,RRA,SA,SHA,TA,THA,TTA,TTHA,U,UU,VA,YA),SIGN(",
  "ANUSVARA,NUKTA,VIRAMA),VOWEL SIGN(AA,AI,AU,E,I,II,O,U,UU)),KIMONO,KIP SIGN,KISS(,MARK),",
  "KISSING(CAT FACE WITH CLOSED EYES,FACE(,WITH(CLOSED EYES,SMILING EYES))),KITE,KIWIFRUIT,",
  "KNEELING PERSON,KNOT,KOALA,KOREAN STANDARD SYMBOL,KRONOS"]

end SwitchTrace.CharacterName
