/-!
# Names of characters: B

## Main definitions

* `CharacterName.volumeB` — the names that begin with B.
-/

namespace SwitchTrace.CharacterName

/-- The outline of the names that begin with B, in pieces. -/
def volumeB : List String :=
  ["BABY(,ANGEL,BOTTLE,CHICK,SYMBOL),BACK(OF ENVELOPE,WITH LEFTWARDS ARROW ABOVE),BACK-TILTED ",
  "SHADOWED WHITE RIGHTWARDS ARROW,BACKSLANTED SOUTH ARROW WITH(HOOKED TAIL,HORIZONTAL TAIL),",
  "BACKSPACE,BACON,BACTRIAN CAMEL,BADGER,BADMINTON RACQUET AND SHUTTLECOCK,BAGEL,BAGGAGE CLAIM,",
  "BAGUETTE BREAD,BALINESE(ADEG ADEG,CARIK(PAMUNGKAH,PAREREN,SIKI),DIGIT(EIGHT,FIVE,FOUR,NINE,",
  "ONE,SEVEN,SIX,THREE,TWO,ZERO),LETTER(AIKARA,AKARA(,TEDUNG),ARCHAIC JNYA,ASYURA SASAK,BA(,",
  "KEMBANG),CA(,LACA),DA(,MADU,MURDA(ALPAPRANA,MAHAPRANA)),EF SASAK,EKARA,GA(,GORA),HA,IKARA(,",
  "TEDUNG),JA(,JERA),KA(,MAHAPRANA),KAF SASAK,KHOT SASAK,LA(,LENGA(,TEDUNG)),MA,NA(,RAMBAT),NGA,",
  "NYA,OKARA(,TEDUNG),PA(,KAPAL),RA(,REPA(,TEDUNG)),SA(,SAGA,SAPA),TA(,LATIK,MURDA MAHAPRANA,",
  "TAWA),TZIR SASAK,UKARA(,TEDUNG),VE SASAK,WA,YA,ZAL SASAK),MUSICAL SYMBOL(COMBINING(BENDE,",
  "ENDEP,GONG,JEGOGAN,KEMPLI(,WITH JEGOGAN),KEMPUL(,WITH JEGOGAN),TEGEH),DAENG,DAING,DANG(,GEDE,",
  "SURANG),DENG,DEUNG,DING,DONG,DUNG,LEFT-HAND(CLOSED(PLAK,PLUK),OPEN(PANG,PING,PUNG)),",
  "RIGHT-HAND(CLOSED(TAK,TUK),OPEN(DAG,DUG))),PAMADA(,LANTANG),PAMENENG,PANTI(,LANTANG),SIGN(",
  "BISAH,CECEK,REREKAN,SURANG,ULU(CANDRA,RICEM)),VOWEL SIGN(LA LENGA(,TEDUNG),PEPET(,TEDUNG),RA ",
  "REPA(,TEDUNG),SUKU(,ILUT),TALING(,REPA(,TEDUNG),TEDUNG),TEDUNG,ULU(,SARI)),WINDU),BALL OF ",
  "YARN,BALLET SHOES,BALLOON,BALLOON-SPOKED ASTERISK,BALLOT(BOLD SCRIPT X,BOX(,WITH(BALLOT,BOLD(",
  "CHECK,SCRIPT X),CHECK,LIGHT X,SCRIPT X,X)),SCRIPT X,X),BAMUM(COLON,COMBINING MARK(KOQNDON,",
  "TUKWENTIS),COMMA,FULL STOP,LETTER(A,EE,FAAMAE,FEE,FOM,FU,I,KA,KEN,KET,KEUX,KI,KO,KOGHOM,",
  "KOVUU,KPA,KU,KYEE,LA,LEEEE,LI,LOQ,LU,M,MA,MBAA,MBEN,MEEEE,MEN,MI,MO,MU,NA,NDAA,NGA,NGGA,",
  "NGKWAEN,NI,NJAEM,NJEE,NJUAE,NSHA,NTEE,NTUU,NU,NUAE,NYI,O,PA,PEE,PEUX,PHASE-A(FIRI,GBIEE FON,",
  "GHEUAEGHEUAE,GHEUAERAE,KAFA,KAQ,KET,KEUKEUTNDA,KPOQ,KUOQ,LAPAQ,LET KUT,LOMMAE,LU,LUAEP,",
  "MAEKEUP,MAEM,MAEMBGBIEE,MAEMKPEN,MAEMVEUX,MAENYI,MAESI,MANSUAE,MAP PIEET,MBANYI,MBAQ,",
  "MEUNJOMNDEUQ,MGBASA,MON NGGEUAET,MOOMEUT,MOOMPUQ,MVEUAENGAM,NAA MFON,NAQ,NDA LEERAEWA,",
  "NDAANGGEUAET,NEN,NGANGU,NGGEN,NGKUE MFON,NGKUENZEUM,NIKA,NJAM,NKAARAE,NKINDI,NSHA,NSHIEE,",
  "NTAP(,MFAA,NTAA),NTOQPEN,NYET,NYI,NYIT MONGKEUAEQ,NZA MFON,NZUN MEUT,PA LEERAEWA,PAAM,PAARAE,",
  "PAMSHAE,PASHAE,PET,PON(MFON(PIPAEMBA,PIPAEMGBIEE),PA NJI(PIPAEMBA,PIPAEMGBIEE)),PUP,ROM,",
  "SEUNYAM,SHINDA PA NJI,SHIRAE,SHOQ NSHUT YUM,SHUENSHUET,SHUM,SISA,SONJAM,SOQ,SOT,SUU,TEUAEN,",
  "TEUTEUWEN,TITA MFON,TU MAEMBA,TUAEP,U YUQ NAE,UNKNOWN,VEE),PHASE-B(FEE,FEUX,GHEUGHEN,",
  "GHEUGHEUAEM,KAM,KEUAEM,KEUPUQ,KEUYEUX,KIEEM,KIQ,LAANAE,LAM NSHUT NYAM,LET,LOM NTEUM,MA(,",
  "NJEUAENA,NJUQA),MBA MAELEE,MBAARAE,MBEURI,MBIT MBAAKET,MBUOQ,MEUQ,MEUT NGGEET,MFIYAQ,MFON ",
  "TEUAEQ,MONTIEEN,NDU NJAA,NGGAAM,NGGEU MBU,NGGUOQ(,LARGE),NGKINDI MVOP,NGOM,NSEN,NSHUET,NTIEE ",
  "SHEUOQ,NYAEMAE,NYI NTEUM,PARUM,PEESHI,PIT,PUNGAAM,SAKEUAE,SET TU,SHET NJAQ,SHEUAEQTU,SIEE,",
  "SUE,TAAM,TU(MAEMGBIEE,NSIEE),VEUM,WUAET,YAFU LEERAEWA,YEURAE),PHASE-C(BUNG,FUE,GBAYI,GHAP,",
  "GHARAE,KAA,KEN(FATIGUE,LAW),KET,KEUKAQ,KEUM,KEUSEUX,KEUSHEUAEP,KPARAQ,KUOP NKAARAE,KUT,LAM,",
  "LAP,LIQ,LU,MA(KEUAERI,NSIEE),MAEMBA,MAESI,MBAA(CABBAGE-TREE,PICKET),MBANYI,MBEEKEET,MBERAE,",
  "MBEUM,MBEUX,MBI,MBIRIEEN,MBIT,MBUAEM,MBUE,MGBASAQ,MIEE,MUAE,NANSANAQ,NAQ,NDAM,NDAP,NDEUAEREE,",
  "NDEUT,NDIDA,NDOMBU,NGAQ,NGGEN,NGGU,NGGUAEN NYAM,NGGUEET,NGGUM,NGGUON,NGKAQ,NGKUE MAEMBA,NGOM,",
  "NJAEM,NJAM,NJEEEE,NJEUX,NJUEQ,NSA,NSEUAEN,NSHAQ,NSOM,NSUN,NSUOT NGOM,NTAA,NTEN,NTEUNGBA,NTU ",
  "MBIT,NYIR MKPARAQ MEUN,NZA,NZEUM,PEN,PIN,PIRIEEN,RU,SETFON,SEUX,SHIQ,SHUEQ,SUAET,TAASHAE,TET,",
  "TEUTEUX,TITA YUE,TITUAEP,VEUAEPEN,VEUX,WANGKUOQ,WUP,YAA,YEUQ,YU MUOMAE,YUM,YUWOQ),PHASE-D(",
  "FAA,FEUFEUAET,GHAA,GHEUAE,KET,KEUAETMEUN,KEUM,KEUOT MBUAE,KEUP,KU,KUN,KUOM,KUQ,KWAET,KYEE,",
  "LEEEE,LET,LEUAEP,LEUM,LIEE,LOQ,LUM,M,MAENJET,MALEERI,MBAA(,SEVEN),MBUO,MEEEE,MEUN,MEUT,",
  "MFEUAE,MFEUT,MFIEE,MFO,MFON,MGBEUN,MGBIEE,MGBOFUM,MONI,MU,MVOP,NDAM,NDEE,NDEUX,NDON,NGGAAM,",
  "NGGAAMAE,NGGAP,NGGEUX,NGGUOM,NGGWAEN,NGKAP,NGKEUAEQ,NGKEURI,NGKIEE,NGKUN,NGKYEE,NI,NJAP,",
  "NJEUAEM,NJEUT,NJI,NJIEE,NJUEQ,NSHEE,NSHUT,NSIEEP,NSIEET,NSUM,NTEE,NTEUM,NTUU,NU,NYAM,NYET,",
  "NYI,NYUE,PAP,PEE,PEUTAE,PIP,PUQ,PUUT,RAEM,REN(MUCH,OLD),RII,SAP,SAQ,SEUAEQ,SHEE,SHEUAE,SHEUX,",
  "SHII,SHOQ,SHU,SOT,SUAE,SUE,SUU,TAE,TEEEE,TEUAEN,TEUN,TEUT,TI,TOQ,TU,TUOT,WAP,WUAEN,YAEMMAE,",
  "YEN,YUOM,YUOP,YUWOQ),PHASE-E(A,FA,FAQ,FEE,FOM,FU(CALL,I,REMEDY),FUE,FUET,GBET,GBEUX,GHAAMAE,",
  "GHET,GHEUAE,GHEUN,GHEUX,GHOM,I,KET,KEUAE,KEUX,KI,KO,KPEUX,KUET,KUOP,KUT,LAAM,LAP,LAQ,LEUAEM,",
  "LOM,LOON,LOOT,LOQ,LU,MA,MAE,MAEM,MAP,MAQ,MBEE,MBEUM,MEN,MFEUQ,MGBA,MGBEN,MI,MIEE,MON,MUAE,",
  "MVI,NA,NAE,NDAA(MY HOUSE,SOFTNESS),NDAP,NDIAQ,NDIQ,NDUN,NGA,NGEUREUT,NGGEEEE,NGGEUAE,",
  "NGGEUAET,NGGUAESHAE NYAM,NGGUP,NGGURAE,NGKA,NGKAAMI,NGKEUAEM,NGKEUX,NGKUM,NGKUP,NGOP,NGOQ,",
  "NGUAE,NGUAET,NJAEMLI,NJEE(,EPOCH),NJEUX,NKOM,NSHIEE,NSHUE,NSHUOP,NTAP,NTUM,NYI(BETWEEN,",
  "CLEAVER),NZAQ,NZUQ,O,PA(PEOPLE,PLURAL),PAA,PAAM,PEEM,PEUT,PEUX,PI,PIEEQ,PIET,PO,POON,PU,PUAE,",
  "PUAQ,PUE,PUM,RAE,RAQ,REUX,RIMGBA,SAA,SEE,SET,SHEUAEQ,SHIQ,SHO,SHOQ,SOM,SUAEN,TAA,TAAQ,TAEN ",
  "NTEUM,TAM,TAQ,TEN,TEU,TEUAEQ,TOO,TOON,TOQ,TUAE,TUM,TUMAE,VEE,VEUAE,VOM,WEUX,WUE,WUO,YAP,",
  "YEUAE,YEUAET,YEUM,YEUX,YIEE,YIT,YOQ(COVER,SWIMMING),YUAEN,YUEQ,YUN,YUQ),PHASE-F(EE,FOM,KA,",
  "KEN,KET,KO,KPA,KU,KYEE,LA,LI,LOQ,M,MA,MBAA,MBEN,MEEEE,MO,NDAA,NGGA,NGKWAEN,NI,NJAEM,NJUAE,",
  "NSHA,NTEE,NU,NUAE,NYI,PEE,PEUX,PUAE,REE,REN,REUX,RIEE,RII,RU,SAMBA,SEUX,SHII,SHO,SHU,SI,SUU,",
  "TAA,TAE,TET,U,VUEQ,WA,WUE,YA,YOQ),PI,PUAE,PUE,RAE,REE,REN,REUX,RIEE,RII,RU,SAMBA,SEUX,SHEUX,",
  "SHII,SHO,SHU,SI,SUU,TAA,TAE,TEN,TET,TI,U,WA,WUE,YA,YOQ,YUQ),NJAEMLI,QUESTION MARK,SEMICOLON),",
  "BANANA,BANJO,BANK,BANKNOTE WITH(DOLLAR SIGN,EURO SIGN,POUND SIGN,YEN SIGN),BAR(CHART,OF ",
  "SOAP),BARBER POLE,BASEBALL,BASKET,BASKETBALL AND HOOP,BASSA VAH(COMBINING(HIGH TONE,HIGH-LOW ",
  "TONE,LOW TONE,LOW-MID TONE,MID TONE),FULL STOP,LETTER(A,BA,CE,DHII,DO,E,EE,ENNI,FA,GAH,GBU,",
  "HWAH,I,JO,KA,KPAH,MBE,O,OO,PA,SE,TO,U,UWU,VU,WA,WADDA,YEIN,YIE,ZO)),BAT,BATAK(CONSONANT SIGN(",
  "H,NG),LETTER(A,BA,CA,DA,GA,HA,I,JA,KARO BA,LA,MA,MANDAILING(HA,NA,SA),MBA,NA,NDA,NGA,",
  "NORTHERN TA,NYA,PA,PAKPAK WA,RA,SA,SIMALUNGUN(A,GA,HA,LA,MA,PA,RA,SA,WA,YA),SOUTHERN TA,U,WA,",
  "YA),PANGOLAT,PANONGONAN,SIGN TOMPI,SYMBOL BINDU(JUDUL,NA METEK,PANGOLAT,PINARBORAS),VOWEL ",
  "SIGN(E,EE,I,KARO(I,O),O,PAKPAK E,U(,FOR SIMALUNGUN SA))),BATH,BATHTUB,BATTERY,BEACH WITH ",
  "UMBRELLA,BEAMED(ASCENDING MUSICAL NOTES,DESCENDING MUSICAL NOTES,EIGHTH NOTES,SIXTEENTH ",
  "NOTES),BEANS,BEAR FACE,BEARDED PERSON,BEATING HEART,BEAVER,BECAUSE,BED,BEER MUG,BEETLE,BEL,",
  "BELL(,PEPPER,SYMBOL,WITH CANCELLATION STROKE),BELLHOP BELL,BENGALI(ABBREVIATION SIGN,ANJI,AU ",
  "LENGTH MARK,CURRENCY(DENOMINATOR SIXTEEN,NUMERATOR(FOUR,ONE(,LESS THAN THE DENOMINATOR),",
  "THREE,TWO)),DIGIT(EIGHT,FIVE,FOUR,NINE,ONE,SEVEN,SIX,THREE,TWO,ZERO),GANDA MARK,ISSHAR,",
  "LETTER(A,AA,AI,AU,BA,BHA,CA,CHA,DA,DDA,DDHA,DHA,E,GA,GHA,HA,I,II,JA,JHA,KA,KHA,KHANDA TA,LA,",
  "MA,NA,NGA,NNA,NYA,O,PA,PHA,RA(,WITH(LOWER DIAGONAL,MIDDLE DIAGONAL)),RHA,RRA,SA,SHA,SSA,TA,",
  "THA,TTA,TTHA,U,UU,VEDIC ANUSVARA,VOCALIC(L,LL,R,RR),YA,YYA),RUPEE(MARK,SIGN),SANDHI MARK,",
  "SIGN(ANUSVARA,AVAGRAHA,CANDRABINDU,NUKTA,VIRAMA,VISARGA),VOWEL SIGN(AA,AI,AU,E,I,II,O,U,UU,",
  "VOCALIC(L,LL,R,RR))),BENT ARROW POINTING DOWNWARDS THEN NORTH EAST,BENTO BOX,BENZENE RING(,",
  "WITH CIRCLE),BET SYMBOL,BETWEEN,BEVERAGE BOX,BHAIKSUKI(DANDA,DIGIT(EIGHT,FIVE,FOUR,NINE,ONE,",
  "SEVEN,SIX,THREE,TWO,ZERO),DOUBLE DANDA,GAP(FILLER-1,FILLER-2),HUNDREDS UNIT MARK,LETTER(A,AA,",
  "AI,AU,BA,BHA,CA,CHA,DA,DDA,DDHA,DHA,E,GA,GHA,HA,I,II,JA,JHA,KA,KHA,LA,MA,NA,NGA,NNA,NYA,O,PA,",
  "PHA,RA,SA,SHA,SSA,TA,THA,TTA,TTHA,U,UU,VA,VOCALIC(L,R,RR),YA),NUMBER(EIGHT,EIGHTY,FIFTY,FIVE,",
  "FORTY,FOUR,NINE,NINETY,ONE,SEVEN,SEVENTY,SIX,SIXTY,TEN,THIRTY,THREE,TWENTY,TWO),SIGN(",
  "ANUSVARA,AVAGRAHA,CANDRABINDU,VIRAMA,VISARGA),VOWEL SIGN(AA,AI,AU,E,I,II,O,U,UU,VOCALIC(L,R,",
  "RR)),WORD SEPARATOR),BICYCLE,BICYCLIST,BIG(REVERSE SOLIDUS,SOLIDUS),BIKINI,BILLED CAP,",
  "BILLIARDS,BIOHAZARD SIGN,BIRD,BIRTHDAY CAKE,BISON,BITCOIN SIGN,BITING LIP,BLACK(BOWTIE,",
  "CENTRE WHITE STAR,CHESS(BISHOP(,ROTATED(NINETY DEGREES,TWO HUNDRED SEVENTY DEGREES)),",
  "EQUIHOPPER(,ROTATED NINETY DEGREES),KING(,ROTATED(NINETY DEGREES,TWO HUNDRED SEVENTY ",
  "DEGREES)),KNIGHT(,ROTATED(FORTY-FIVE DEGREES,NINETY DEGREES,ONE HUNDRED THIRTY-FIVE DEGREES,",
  "THREE HUNDRED FIFTEEN DEGREES,TWO HUNDRED(SEVENTY DEGREES,TWENTY-FIVE DEGREES))),",
  "KNIGHT-BISHOP,KNIGHT-QUEEN,KNIGHT-ROOK,PAWN(,ROTATED(NINETY DEGREES,TWO HUNDRED SEVENTY ",
  "DEGREES)),QUEEN(,ROTATED(NINETY DEGREES,TWO HUNDRED SEVENTY DEGREES)),ROOK(,ROTATED(NINETY ",
  "DEGREES,TWO HUNDRED SEVENTY DEGREES)),TURNED(BISHOP,KING,KNIGHT,PAWN,QUEEN,ROOK)),CIRCLE(,",
  "FOR RECORD,WITH(DOWN ARROW,TWO WHITE DOTS,WHITE DOT RIGHT)),CLUB SUIT,CROSS ON SHIELD,CURVED(",
  "DOWNWARDS AND(LEFTWARDS ARROW,RIGHTWARDS ARROW),LEFTWARDS AND(DOWNWARDS ARROW,UPWARDS ARROW),",
  "RIGHTWARDS AND(DOWNWARDS ARROW,UPWARDS ARROW),UPWARDS AND(LEFTWARDS ARROW,RIGHTWARDS ARROW)),",
  "DIAMOND(,CENTRED,MINUS WHITE X,ON CROSS,SUIT,WITH DOWN ARROW),DOWN POINTING BACKHAND INDEX,",
  "DOWN-POINTING(DOUBLE TRIANGLE,ISOSCELES RIGHT TRIANGLE,SMALL TRIANGLE,TRIANGLE),DOWNWARDS ",
  "EQUILATERAL ARROWHEAD,DRAUGHTS(KING,MAN),DROPLET,FLAG,FLORETTE,FOLDER,FOUR POINTED STAR,HARD ",
  "SHELL FLOPPY DISK,HEART(,SUIT),HEXAGON,HORIZONTAL ELLIPSE,HOURGLASS,LARGE(CIRCLE,SQUARE),",
  "LEFT(LANE MERGE,POINTING(BACKHAND INDEX,INDEX)),LEFT-POINTING(DOUBLE TRIANGLE(,WITH VERTICAL ",
  "BAR),ISOSCELES RIGHT TRIANGLE,POINTER,SMALL TRIANGLE,TRIANGLE),LEFTWARDS(BULLET,EQUILATERAL ",
  "ARROWHEAD),LOWER(LEFT TRIANGLE,RIGHT TRIANGLE),LOZENGE,MEDIUM(DIAMOND,DOWN-POINTING TRIANGLE(",
  ",CENTRED),LEFT-POINTING TRIANGLE(,CENTRED),LOZENGE,RIGHT-POINTING TRIANGLE(,CENTRED),SMALL(",
  "DIAMOND,LOZENGE,SQUARE),SQUARE,UP-POINTING TRIANGLE(,CENTRED)),MOON LILITH,NIB,OCTAGON,",
  "PARALLELOGRAM,PENNANT,PENTAGON,PUSHPIN,QUESTION MARK ORNAMENT,RECTANGLE,RIGHT POINTING(",
  "BACKHAND INDEX,INDEX),RIGHT-POINTING(DOUBLE TRIANGLE(,WITH VERTICAL BAR),ISOSCELES RIGHT ",
  "TRIANGLE,PENTAGON,POINTER,SMALL TRIANGLE,TRIANGLE(,WITH DOUBLE VERTICAL BAR)),RIGHTWARDS(",
  "ARROW,ARROWHEAD,BULLET,EQUILATERAL ARROWHEAD),ROSETTE,SAFETY SCISSORS,SCISSORS,SHOGI PIECE,",
  "SKULL AND CROSSBONES,SLIGHTLY SMALL(CIRCLE,SQUARE),SMALL(DIAMOND,LOZENGE,SQUARE,STAR),",
  "SMILING FACE,SNOWMAN,SPADE SUIT,SQUARE(,BUTTON,CENTRED,FOR STOP),STAR,SUN WITH RAYS,",
  "TELEPHONE,TINY(DIAMOND,LOZENGE,SQUARE),TOUCHTONE TELEPHONE,TRUCK,TWO-WAY LEFT WAY TRAFFIC,",
  "UNIVERSAL RECYCLING SYMBOL,UP POINTING BACKHAND INDEX,UP-POINTING(DOUBLE TRIANGLE,ISOSCELES ",
  "RIGHT TRIANGLE,SMALL TRIANGLE,TRIANGLE),UPPER(LEFT TRIANGLE,RIGHT TRIANGLE),UPWARDS ",
  "EQUILATERAL ARROWHEAD,VERTICAL(ELLIPSE,RECTANGLE),VERY SMALL(DIAMOND,LOZENGE,SQUARE)),",
  "BLACK-FEATHERED(NORTH EAST ARROW,RIGHTWARDS ARROW,SOUTH EAST ARROW),BLACK-LETTER CAPITAL(C,H,",
  "I,R,Z),BLANK SYMBOL,BLOCK(SEXTANT-1,SEXTANT-12,SEXTANT-123,SEXTANT-1234,SEXTANT-12345,",
  "SEXTANT-12346,SEXTANT-1235,SEXTANT-12356,SEXTANT-1236,SEXTANT-124,SEXTANT-1245,SEXTANT-12456,",
  "SEXTANT-1246,SEXTANT-125,SEXTANT-1256,SEXTANT-126,SEXTANT-13,SEXTANT-134,SEXTANT-1345,",
  "SEXTANT-13456,SEXTANT-1346,SEXTANT-1356,SEXTANT-136,SEXTANT-14,SEXTANT-145,SEXTANT-1456,",
  "SEXTANT-146,SEXTANT-15,SEXTANT-156,SEXTANT-16,SEXTANT-2,SEXTANT-23,SEXTANT-234,SEXTANT-2345,",
  "SEXTANT-23456,SEXTANT-2346,SEXTANT-235,SEXTANT-2356,SEXTANT-236,SEXTANT-24,SEXTANT-245,",
  "SEXTANT-2456,SEXTANT-25,SEXTANT-256,SEXTANT-26,SEXTANT-3,SEXTANT-34,SEXTANT-345,SEXTANT-3456,",
  "SEXTANT-346,SEXTANT-35,SEXTANT-356,SEXTANT-36,SEXTANT-4,SEXTANT-45,SEXTANT-456,SEXTANT-46,",
  "SEXTANT-5,SEXTANT-56,SEXTANT-6),BLOSSOM,BLOWFISH,BLUE(BOOK,HEART),BLUEBERRIES,BOAR,BOLD(",
  "EIGHT SPOKED ASTERISK,FIVE SPOKED ASTERISK,GREEK CROSS,SALTIRE,SIX SPOKED ASTERISK,WHITE(",
  "CIRCLE,SQUARE)),BOM,BOMB,BONE,BOOK,BOOKMARK(,TABS),BOOKS,BOOMERANG,BOPOMOFO(FINAL LETTER(G,H,",
  "K,P,T),LETTER(A,AH,AI,AINN,AM,AN,ANG,ANN,AU,AUNN,B,BU,C,CH,D,E,EE,EH,EI,EN,ENG,ENN,ER,F,G,GH,",
  "GN,GU,GW,H,I,IH,IM,INN,INNN,IR,IU,J,JI,K,KW,L,LH,M,N,NG,NGG,NN,O(,WITH DOT ABOVE),OE,OM,ONG,",
  "ONN,OO,OU,P,Q,R,S,SH,T,U,UNN,V,X,Z,ZH,ZI,ZY)),BOTTLE WITH POPPING CORK,BOTTOM(ARC ",
  "ANTICLOCKWISE ARROW,CURLY BRACKET,HALF(BLACK CIRCLE,INTEGRAL,LEFT PARENTHESIS,RIGHT ",
  "PARENTHESIS),LEFT(CORNER,CROP,HALF BRACKET),PARENTHESIS,RIGHT(CORNER,CROP,HALF BRACKET),",
  "SQUARE BRACKET(,OVER TOP SQUARE BRACKET),TORTOISE SHELL BRACKET),BOUQUET(,OF FLOWERS),BOW ",
  "AND ARROW,BOWL(OF HYGIEIA,WITH SPOON),BOWLING,BOWTIE(,WITH(LEFT HALF BLACK,RIGHT HALF ",
  "BLACK)),BOX DRAWINGS(DOUBLE(DOWN AND(HORIZONTAL,LEFT,RIGHT),HORIZONTAL,UP AND(HORIZONTAL,",
  "LEFT,RIGHT),VERTICAL(,AND(HORIZONTAL,LEFT,RIGHT))),DOWN(DOUBLE AND(HORIZONTAL SINGLE,LEFT ",
  "SINGLE,RIGHT SINGLE),HEAVY AND(HORIZONTAL LIGHT,LEFT(LIGHT,UP LIGHT),RIGHT(LIGHT,UP LIGHT),",
  "UP HORIZONTAL LIGHT),LIGHT AND(HORIZONTAL HEAVY,LEFT(HEAVY,UP HEAVY),RIGHT(HEAVY,UP HEAVY),",
  "UP HORIZONTAL HEAVY),SINGLE AND(HORIZONTAL DOUBLE,LEFT DOUBLE,RIGHT DOUBLE)),HEAVY(DOUBLE ",
  "DASH(HORIZONTAL,VERTICAL),DOWN(,AND(HORIZONTAL,LEFT,RIGHT)),HORIZONTAL,LEFT(,AND LIGHT ",
  "RIGHT),QUADRUPLE DASH(HORIZONTAL,VERTICAL),RIGHT,TRIPLE DASH(HORIZONTAL,VERTICAL),UP(,AND(",
  "HORIZONTAL,LEFT,LIGHT DOWN,RIGHT)),VERTICAL(,AND(HORIZONTAL,LEFT,RIGHT))),LEFT(DOWN HEAVY ",
  "AND RIGHT UP LIGHT,HEAVY AND RIGHT(DOWN LIGHT,UP LIGHT,VERTICAL LIGHT),LIGHT AND RIGHT(DOWN ",
  "HEAVY,UP HEAVY,VERTICAL HEAVY),UP HEAVY AND RIGHT DOWN LIGHT),LIGHT(ARC(DOWN AND(LEFT,RIGHT),",
  "UP AND(LEFT,RIGHT)),DIAGONAL(CROSS,DIAMOND,MIDDLE(LEFT TO(LOWER CENTRE(,TO MIDDLE RIGHT),",
  "UPPER CENTRE TO MIDDLE RIGHT(,TO LOWER CENTRE)),RIGHT TO(LOWER CENTRE,UPPER CENTRE TO MIDDLE ",
  "LEFT TO LOWER CENTRE)),UPPER(CENTRE TO MIDDLE(LEFT(,AND MIDDLE RIGHT TO LOWER CENTRE,TO ",
  "LOWER CENTRE(,TO MIDDLE RIGHT)),RIGHT(,AND MIDDLE LEFT TO LOWER CENTRE,TO LOWER CENTRE(,TO ",
  "MIDDLE LEFT))),LEFT TO LOWER RIGHT,RIGHT TO LOWER LEFT)),DOUBLE DASH(HORIZONTAL,VERTICAL),",
  "DOWN(,AND(HORIZONTAL,LEFT,RIGHT)),HORIZONTAL(,WITH VERTICAL STROKE),LEFT(,AND HEAVY RIGHT),",
  "QUADRUPLE DASH(HORIZONTAL,VERTICAL),RIGHT,TRIPLE DASH(HORIZONTAL,VERTICAL),UP(,AND(HEAVY ",
  "DOWN,HORIZONTAL,LEFT,RIGHT)),VERTICAL(,AND(HORIZONTAL,LEFT,RIGHT))),RIGHT(DOWN HEAVY AND ",
  "LEFT UP LIGHT,HEAVY AND LEFT(DOWN LIGHT,UP LIGHT,VERTICAL LIGHT),LIGHT AND LEFT(DOWN HEAVY,",
  "UP HEAVY,VERTICAL HEAVY),UP HEAVY AND LEFT DOWN LIGHT),UP(DOUBLE AND(HORIZONTAL SINGLE,LEFT ",
  "SINGLE,RIGHT SINGLE),HEAVY AND(DOWN HORIZONTAL LIGHT,HORIZONTAL LIGHT,LEFT(DOWN LIGHT,LIGHT),",
  "RIGHT(DOWN LIGHT,LIGHT)),LIGHT AND(DOWN HORIZONTAL HEAVY,HORIZONTAL HEAVY,LEFT(DOWN HEAVY,",
  "HEAVY),RIGHT(DOWN HEAVY,HEAVY)),SINGLE AND(HORIZONTAL DOUBLE,LEFT DOUBLE,RIGHT DOUBLE)),",
  "VERTICAL(DOUBLE AND(HORIZONTAL SINGLE,LEFT SINGLE,RIGHT SINGLE),HEAVY AND(HORIZONTAL LIGHT,",
  "LEFT LIGHT,RIGHT LIGHT),LIGHT AND(HORIZONTAL HEAVY,LEFT HEAVY,RIGHT HEAVY),SINGLE AND(",
  "HORIZONTAL DOUBLE,LEFT DOUBLE,RIGHT DOUBLE))),BOXING GLOVE,BOY,BOYS SYMBOL,BPH,BRAHMI(DANDA,",
  "DIGIT(EIGHT,FIVE,FOUR,NINE,ONE,SEVEN,SIX,THREE,TWO,ZERO),DOUBLE DANDA,LETTER(A,AA,AI,AU,BA,",
  "BHA,CA,CHA,DA,DDA,DDHA,DHA,E,GA,GHA,HA,I,II,JA,JHA,KA,KHA,LA,LLA,MA,NA,NGA,NNA,NYA,O,OLD ",
  "TAMIL(LLA,LLLA,NNNA,RRA,SHORT(E,O)),PA,PHA,RA,SA,SHA,SSA,TA,THA,TTA,TTHA,U,UU,VA,VOCALIC(L,",
  "LL,R,RR),YA),NUMBER(EIGHT,EIGHTY,FIFTY,FIVE,FORTY,FOUR,JOINER,NINE,NINETY,ONE(,HUNDRED,",
  "THOUSAND),SEVEN,SEVENTY,SIX,SIXTY,TEN,THIRTY,THREE,TWENTY,TWO),PUNCTUATION(CRESCENT BAR,DOT,",
  "DOUBLE DOT,LINE,LOTUS),SIGN(ANUSVARA,CANDRABINDU,JIHVAMULIYA,OLD TAMIL VIRAMA,UPADHMANIYA,",
  "VISARGA),VIRAMA,VOWEL SIGN(AA,AI,AU,BHATTIPROLU AA,E,I,II,O,OLD TAMIL SHORT(E,O),U,UU,",
  "VOCALIC(L,LL,R,RR))),BRAIN,BREAD,BREAK PERMITTED HERE,BREAST-FEEDING,BREVE,BRICK,BRIDE WITH ",
  "VEIL,BRIDGE AT NIGHT,BRIEFCASE,BRIEFS,BROCCOLI,BROKEN(BAR,CIRCLE WITH NORTHWEST ARROW,HEART),",
  "BROOM,BROWN HEART,BS,BUBBLE TEA,BUBBLES,BUCKET,BUG,BUGINESE(END OF SECTION,LETTER(A,BA,CA,DA,",
  "GA,HA,JA,KA,LA,MA,MPA,NA,NGA,NGKA,NRA,NYA,NYCA,PA,RA,SA,TA,VA,YA),PALLAWA,VOWEL SIGN(AE,E,I,",
  "O,U)),BUHID(LETTER(A,BA,DA,GA,HA,I,KA,LA,MA,NA,NGA,PA,RA,SA,TA,U,WA,YA),VOWEL SIGN(I,U)),",
  "BUILDING CONSTRUCTION,BULLET(,OPERATOR),BULLHORN(,WITH SOUND WAVES),BULLSEYE,BURRITO,BUS(,",
  "STOP),BUST IN SILHOUETTE,BUSTS IN SILHOUETTE,BUTTER,BUTTERFLY,BYTE ORDER MARK,BYZANTINE ",
  "MUSICAL SYMBOL(AGOGI(ARGI,ARGOTERI,GORGI,GORGOTERI,MESI,METRIA,POLI(ARGI,GORGI)),",
  "ANATRICHISMA,ANTIKENOKYLISMA,ANTIKENOMA,APESO(EKFONITIKON,EXO NEO),APLI,APODERMA(ARCHAION,",
  "NEO),APOSTROFOI(SYNDESMOS NEO,TELOUS ICHIMATOS),APOSTROFOS(,DIPLI,NEO),APOTHEMA,ARGON,",
  "ARGOSYNTHETON,ARKTIKO(DI,GA,KE,NI,PA,VOU,ZO),CHAMILI,CHAMILON,CHOREVMA(ARCHAION,NEO),CHROA(",
  "KLITON,SPATHI,ZYGOS),DASEIA,DIARGON,DIASTOLI(APLI(MEGALI,MIKRI),DIPLI,THESEOS),DIESIS(APLI ",
  "DYO DODEKATA,DIGRAMMOS EX DODEKATA,MONOGRAMMOS TESSERA DODEKATA,TETARTIMORION,TRIGRAMMOS ",
  "OKTO DODEKATA,TRITIMORION),DIFTOGGOS OU,DIGORGON(,PARESTIGMENON(ARISTERA(ANO,KATO),DEXIA)),",
  "DIGRAMMA GG,DIPLI(,ARCHAION),DYO,EKSTREPTON,ELAFRON,ENARXIS KAI FTHORA VOU,ENDOFONON,",
  "EPEGERMA,ETERON(ARGOSYNTHETON,PARAKALESMA),EXO EKFONITIKON,FANEROSIS(DIFONIAS,MONOFONIAS,",
  "TETRAFONIAS),FHTORA SKLIRON CHROMA VASIS,FTHORA(ARCHAION(,DEYTEROU ICHOU),DIATONIKI(DI,KE,",
  "NANA,NI(ANO,KATO),PA,ZO),ENARMONIOS ANTIFONIA,I YFESIS TETARTIMORION,MALAKON CHROMA(DIFONIAS,",
  "MONOFONIAS),NAOS ICHOS,NENANO,SKLIRON(CHROMA(SYNAFI,VASIS),DIATONON DI)),GENIKI(DIESIS,",
  "YFESIS),GORGON(ARCHAION,NEO(ANO,KATO),PARESTIGMENON(ARISTERA,DEXIA)),GORGOSYNTHETON,",
  "GORTHMIKON N(APLOUN,DIPLOUN),GRONTHISMATA,ICHADIN,IMIDIARGON,IMIFONON,IMIFTHORA,IMIFTHORON,",
  "ISAKIA TELOUS ICHIMATOS,ISON(ARCHAION,NEO),KATAVA TROMIKON,KATAVASMA,KATHISTI,KENTIMA(",
  "ARCHAION,NEO(ANO,KATO,MESO)),KENTIMATA(,ARCHAION,NEO(ANO,KATO,MESO)),KLASMA(,ANO,KATO),",
  "KONTEVMA(,ALLO),KORONIS,KOUFISMA,KRATIMA(ALLO,ARCHAION,NEO),KRATIMATA,KRATIMOKOUFISMA,",
  "KRATIMOYPORROON,KREMASTI,KYLISMA,LEIMMA(DYO CHRONON,ENOS CHRONOU,IMISEOS CHRONOU,TESSARON ",
  "CHRONON,TRION CHRONON),LEMOI,LYGISMA,MARTYRIA(ALLI(DEYTEROS ICHOS,PROTOS ICHOS),DEYTEROS ",
  "ICHOS,LEGETOS ICHOS,PLAGIOS(ICHOS,TETARTOS ICHOS),PROTOS ICHOS,PROTOVARYS ICHOS,TETARTOS(",
  "ICHOS,LEGETOS ICHOS),TRIFONIAS,TRITOS ICHOS,VARYS ICHOS),MIKRON ISON,NANA,OLIGON(ARCHAION,",
  "NEO),OMALON,OXEIA(DIPLI,EKFONITIKON,NEO),OXEIAI ARCHAION,OYRANISMA(ARCHAION,NEO),PARAKALESMA(",
  "ARCHAION,NEO),PARAKLITIKI(,ARCHAION,NEO),PARICHON,PELASTON(,NEO),PERISPOMENI,PETASMA,PETASTI,",
  "PETASTOKOUFISMA,PIASMA(ARCHAION,NEO),PSIFISTOLYGISMA,PSIFISTON(,NEO),PSIFISTOPARAKALESMA,",
  "PSIFISTOSYNAGMA,PSILI,PSILON,RAPISMA,REVMA,SAXIMATA,SEISMA(,NEO),SIMANSIS(ARSEOS(,DISIMOU,",
  "TETRASIMOU,TRISIMOU),THESEOS(,DISIMOU,TETRASIMOU,TRISIMOU)),STAVROS(,APODEXIA),STIGMA,",
  "STRAGGISMATA,SYNAGMA(ARCHAION,META STAVROU,NEO),SYNEVMA,SYRMA,SYRMATIKI,TELEIA,TESSERA,",
  "TETRAPLI,THEMA(,APLOUN),THEMATISMOS(ESO,EXO),THES KAI APOTHES,THITA,TINAGMA,TRIA,TRIGORGON,",
  "TRIPLI,TROMIKOLYGISMA,TROMIKON(ALLO,ARCHAION,NEO),TROMIKOPARAKALESMA,TROMIKOPSIFISTON,",
  "TROMIKOSYNAGMA,VAREIA(DIPLI,EKFONITIKON,NEO),VAREIAI ARCHAION,VATHY,XIRON KLASMA,YFEN(ANO,",
  "KATO),YFESIS(APLI DYO DODEKATA,DIGRAMMOS EX DODEKATA,MONOGRAMMOS TESSERA DODEKATA,TRIGRAMMOS ",
  "OKTO DODEKATA,TRITIMORION),YPOKRISIS(,DIPLI),YPORROI,YPSILI)"]

end SwitchTrace.CharacterName
