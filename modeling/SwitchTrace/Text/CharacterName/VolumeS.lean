/-!
# Names of characters: S

## Main definitions

* `CharacterName.volumeS` — the names that begin with S.
-/

namespace SwitchTrace.CharacterName

/-- The outline of the names that begin with S, in pieces. -/
def volumeS : List String :=
  ["S IN TRIANGLE,SAFETY(PIN,VEST),SAGITTARIUS,SAILBOAT,SAKE BOTTLE AND CUP,SALT SHAKER,SALTIRE,",
  "SALUTING FACE,SAMARITAN(ABBREVIATION MARK,LETTER(ALAF,BAA,BIT,DALAT,FI,GAMAN,IN,IT,IY,KAAF,",
  "LABAT,MIM,NUN,QUF,RISH,SHAN,SINGAAT,TAAF,TIT,TSAADIY,YUT,ZEN),MARK(DAGESH,EPENTHETIC YUT,IN,",
  "IN-ALAF,NEQUDAA,OCCLUSION),MODIFIER LETTER(EPENTHETIC YUT,I,SHORT A),PUNCTUATION(AFSAAQ,",
  "ANGED,ANNAAU,ARKAANU,ATMAAU,BAU,MELODIC QITSA,NEQUDAA,QITSA,SHIYYAALAA,SOF MASHFAAT,TURU,",
  "ZAEF,ZIQAA),VOWEL SIGN(A,AA,E,I,LONG(A,AA,E,I,U),O,OVERLONG(A,AA),SHORT A,SUKUN,U)),SANDWICH,",
  "SANS-SERIF(HEAVY(DOUBLE(COMMA QUOTATION MARK ORNAMENT,TURNED COMMA QUOTATION MARK ORNAMENT),",
  "LOW DOUBLE COMMA QUOTATION MARK ORNAMENT),INTERROBANG ORNAMENT),SARI,SATELLITE(,ANTENNA),",
  "SATURN,SAURASHTRA(CONSONANT SIGN HAARU,DANDA,DIGIT(EIGHT,FIVE,FOUR,NINE,ONE,SEVEN,SIX,THREE,",
  "TWO,ZERO),DOUBLE DANDA,LETTER(A,AA,AI,AU,BA,BHA,CA,CHA,DA,DDA,DDHA,DHA,E,EE,GA,GHA,HA,I,II,",
  "JA,JHA,KA,KHA,LA,LLA,MA,NA,NGA,NNA,NYA,O,OO,PA,PHA,RA,SA,SHA,SSA,TA,THA,TTA,TTHA,U,UU,VA,",
  "VOCALIC(L,LL,R,RR),YA),SIGN(ANUSVARA,CANDRABINDU,VIRAMA,VISARGA),VOWEL SIGN(AA,AI,AU,E,EE,I,",
  "II,O,OO,U,UU,VOCALIC(L,LL,R,RR))),SAUROPOD,SAXOPHONE,SCALES,SCARF,SCHOOL(,SATCHEL),SCI,",
  "SCOOTER,SCORPION,SCORPIUS,SCREEN,SCREWDRIVER,SCRIPT(CAPITAL(B,E,F,H,I,L,M,P,R),LIGATURE ET ",
  "ORNAMENT,SMALL(E,G,L,O)),SCROLL,SCRUPLE,SEAL,SEAT,SECOND PLACE MEDAL,SECTION SIGN,SECTOR,",
  "SEDNA,SEE-NO-EVIL MONKEY,SEEDLING,SEGMENT,SEGMENTED DIGIT(EIGHT,FIVE,FOUR,NINE,ONE,SEVEN,SIX,",
  "THREE,TWO,ZERO),SELFIE,SEMICOLON,SEMIDIRECT PRODUCT WITH BOTTOM CLOSED,SEMISEXTILE,SEPARATED ",
  "SYMBOL,SERIOUS FACE WITH SYMBOLS COVERING MOUTH,SERVICE MARK,SESAME DOT,SESQUIQUADRATE,SET(",
  "MINUS,TRANSMIT STATE),SEWING NEEDLE,SEXTILE,SGC,SHADOWED WHITE(CIRCLE,LATIN CROSS,STAR),",
  "SHALLOW PAN OF FOOD,SHAMROCK,SHARADA(ABBREVIATION SIGN,CONTINUATION SIGN,DANDA,DIGIT(EIGHT,",
  "FIVE,FOUR,NINE,ONE,SEVEN,SIX,THREE,TWO,ZERO),DOUBLE DANDA,EKAM,EXTRA SHORT VOWEL MARK,",
  "HEADSTROKE,LETTER(A,AA,AI,AU,BA,BHA,CA,CHA,DA,DDA,DDHA,DHA,E,GA,GHA,HA,I,II,JA,JHA,KA,KHA,LA,",
  "LLA,MA,NA,NGA,NNA,NYA,O,PA,PHA,RA,SA,SHA,SSA,TA,THA,TTA,TTHA,U,UU,VA,VOCALIC(L,LL,R,RR),YA),",
  "OM,SANDHI MARK,SECTION(MARK-1,MARK-2),SEPARATOR,SIGN(ANUSVARA,AVAGRAHA,CANDRABINDU,INVERTED ",
  "CANDRABINDU,JIHVAMULIYA,NUKTA,SIDDHAM,UPADHMANIYA,VIRAMA,VISARGA),SUTRA MARK,VOWEL(MODIFIER ",
  "MARK,SIGN(AA,AI,AU,E,I,II,O,PRISHTHAMATRA E,U,UU,VOCALIC(L,LL,R,RR)))),SHARK,SHAVED ICE,",
  "SHAVIAN LETTER(ADO,AGE,AH,AIR,ARE,ARRAY,ASH,AWE,BIB,CHURCH,DEAD,EAR,EAT,EGG,ERR,FEE,GAG,",
  "HA-HA,HUNG,IAN,ICE,IF,JUDGE,KICK,LOLL,MEASURE,MIME,NUN,OAK,OIL,ON,OOZE,OR,OUT,PEEP,ROAR,SO,",
  "SURE,THEY,THIGH,TOT,UP,VOW,WOE,WOOL,YEA,YEW,ZOO),SHEEP,SHIELD,SHIFT(IN,OUT),SHINTO SHRINE,",
  "SHIP,SHOCKED FACE WITH EXPLODING HEAD,SHOOTING STAR,SHOPPING(BAGS,TROLLEY),SHORT(BACKSLANTED ",
  "SOUTH ARROW,BENT ARROW POINTING DOWNWARDS THEN NORTH EAST,DOWN TACK(,WITH OVERBAR),LEFT TACK,",
  "RIGHTWARDS ARROW ABOVE LEFTWARDS ARROW,SLANTED NORTH ARROW,UP TACK(,ABOVE SHORT DOWN TACK,",
  "WITH UNDERBAR)),SHORTCAKE,SHORTHAND FORMAT(CONTINUING OVERLAP,DOWN STEP,LETTER OVERLAP,UP ",
  "STEP),SHORTS,SHOULDERED OPEN BOX,SHOWER,SHRIMP,SHRUG,SHUFFLE PRODUCT,SHY,SI,SIDDHAM(DANDA,",
  "DOUBLE DANDA,END OF TEXT MARK,LETTER(A,AA,AI,ALTERNATE U,AU,BA,BHA,CA,CHA,DA,DDA,DDHA,DHA,E,",
  "GA,GHA,HA,I,II,JA,JHA,KA,KHA,LA,MA,NA,NGA,NNA,NYA,O,PA,PHA,RA,SA,SHA,SSA,TA,THA,THREE-CIRCLE ",
  "ALTERNATE I,TTA,TTHA,TWO-CIRCLE ALTERNATE(I,II),U,UU,VA,VOCALIC(L,LL,R,RR),YA),REPETITION(",
  "MARK-1,MARK-2,MARK-3),SECTION MARK(DOUBLE RING(,WITH RAYS),WITH(CIRCLES AND(FOUR ENCLOSURES,",
  "RAYS,TWO ENCLOSURES),DOUBLE CRESCENTS,QUADRUPLE CRESCENTS,RAYS AND DOTTED(CRESCENTS,DOUBLE ",
  "CRESCENTS,TRIPLE CRESCENTS),SEPTUPLE CRESCENTS,TRIDENT AND(DOTTED CRESCENTS,U-SHAPED ",
  "ORNAMENTS),TRIPLE CRESCENTS)),SEPARATOR(BAR,DOT),SIGN(ANUSVARA,CANDRABINDU,NUKTA,SIDDHAM,",
  "VIRAMA,VISARGA),VOWEL SIGN(AA,AI,ALTERNATE(U,UU),AU,E,I,II,O,U,UU,VOCALIC(R,RR))),SIDEWAYS(",
  "BLACK(DOWN POINTING INDEX,LEFT POINTING INDEX,RIGHT POINTING INDEX,UP POINTING INDEX),WHITE(",
  "DOWN POINTING INDEX,LEFT POINTING INDEX,RIGHT POINTING INDEX,UP POINTING INDEX)),SIGN OF THE ",
  "HORNS,SIGNWRITING(AIR(BLOW SMALL ROTATIONS,BLOWING OUT,SUCK SMALL ROTATIONS,SUCKING IN),",
  "BREATH(EXHALE,INHALE),BRUSH(BETWEEN,MULTIPLE,SINGLE),CHEEKS(NEUTRAL,PUFFED,SUCKED),COLON,",
  "COMMA,DREAMY EYEBROWS(DOWN NEUTRAL,NEUTRAL(DOWN,UP),UP NEUTRAL),DYNAMIC(ARROWHEAD(LARGE,",
  "SMALL),EVERY OTHER TIME,FAST,GRADUAL,RELAXED,SIMULTANEOUS(,ALTERNATING),SLOW,TENSE),EARS,",
  "EXCITEMENT,EYE(BLINK(MULTIPLE,SINGLE),WINK),EYEBROWS STRAIGHT(DOWN,NEUTRAL,UP),",
  "EYEGAZE-FLOORPLANE(CURVED,STRAIGHT(,ALTERNATING,DOUBLE)),EYEGAZE-WALLPLANE(CIRCLING,CURVED,",
  "STRAIGHT(,ALTERNATING,DOUBLE)),EYELASHES(DOWN,FLUTTERING,UP),EYES(CLOSED,HALF(CLOSED,OPEN),",
  "OPEN,SQUEEZED,WIDE OPEN,WIDENING MOVEMENT),FACE DIRECTION POSITION NOSE(FORWARD TILTING,UP ",
  "OR DOWN(,TILTING)),FILL(MODIFIER-2,MODIFIER-3,MODIFIER-4,MODIFIER-5,MODIFIER-6),FINGER,FLICK(",
  "LARGE(MULTIPLE,SINGLE),SEQUENTIAL,SMALL(MULTIPLE,SINGLE)),FLOORPLANE SHOULDER HIP MOVE,",
  "FOREHEAD(CONTACT,NEUTRAL,WRINKLED),FULL STOP,GRASP(BETWEEN,MULTIPLE,SINGLE),HAIR,HAND-ANGLE(,",
  "INDEX(,MIDDLE(LITTLE,RING),RING LITTLE(,OUT),THUMB(,IN,OUT)),LITTLE(INDEX(,THUMB INDEX THUMB(",
  ",OUT)),UP),MIDDLE RING LITTLE(,IN,OUT),RING(DOWN MIDDLE THUMB INDEX CROSS,LITTLE)),",
  "HAND-CIRCLE(,INDEX(,BENT,HINGE,MIDDLE(,CROSS LITTLE,CROSSED,LITTLE,RING,THUMB),RING LITTLE),",
  "LITTLE(INDEX,UP),MIDDLE(RING LITTLE(,BENT),UP),RING LITTLE),HAND-CLAW(,FOUR FINGERS ",
  "CONJOINED,INDEX THUMB CURVE THUMB INSIDE,MIDDLE RING LITTLE CONJOINED(,SIDE),NO THUMB,THUMB(",
  "FORWARD,SIDE)),HAND-CUP(,FIVE FINGERS SPREAD(,OPEN),INDEX(,RING LITTLE,THUMB(,OPEN)),MIDDLE ",
  "RING LITTLE,NO THUMB,OPEN(,NO THUMB,THUMB(FORWARD,SIDE)),THUMB(FORWARD,SIDE)),HAND-CURLICUE(,",
  "INDEX RING LITTLE ON,MIDDLE RING LITTLE ON,OPEN),HAND-FIST(,FOUR FINGERS CONJOINED BENT,HEEL,",
  "INDEX(,BENT(,OVER MIDDLE),CUPPED,HINGED(,LOW,MIDDLE UP(,THUMB SIDE)),MIDDLE(,BENT(,THUMB ",
  "STRAIGHT),CONJOINED(,CUPPED(,THUMB FORWARD),HINGED(,THUMB SIDE),INDEX BENT,MIDDLE BENT,THUMB(",
  "FORWARD,SIDE(,BENT,CONJOINED))),CROSS LITTLE,CROSSED(,THUMB SIDE),HINGED(,SPREAD THUMB SIDE),",
  "LITTLE,RAISED KNUCKLES,RING(,BENT,CONJOINED),STRAIGHT THUMB BENT,THUMB(,ANGLED(,OUT),BENT,",
  "CIRCLED,CONJOINED HINGED,CUPPED,HINGED,HOOKED),UP SPREAD THUMB FORWARD),RAISED KNUCKLE,RING ",
  "LITTLE,THUMB(ANGLED(IN MIDDLE UP,OUT MIDDLE UP),CIRCLE,CIRCLED MIDDLE UP,CUPPED MIDDLE UP,",
  "CURLICUE,CURVE THUMB(INSIDE,UNDER),FORWARD INDEX(BENT,STRAIGHT),HOOK,HOOKED MIDDLE(HINGED,",
  "UP),SIDE(,BOTH BENT,INDEX(BENT,HINGE),THUMB(BENT,CONJOINED,DIAGONAL))),UP MIDDLE HINGED(,",
  "THUMB(CONJOINED,SIDE))),LITTLE(BENT,DOWN(,OTHERS CIRCLED,RIPPLE(CURVED,STRAIGHT)),INDEX(,",
  "THUMB),RAISED KNUCKLE,THUMB,TOUCHES THUMB,UP),MIDDLE(BENT OVER INDEX,DOWN,LITTLE,RAISED ",
  "KNUCKLE,RING LITTLE,THUMB(ANGLED(INDEX UP,OUT INDEX(CROSSED,UP)),CIRCLED INDEX(HINGED,UP),",
  "CUPPED INDEX UP,HOOKED INDEX UP,LITTLE),UP(,THUMB SIDE)),RING(DOWN,INDEX,LITTLE,MIDDLE(,",
  "CONJOINED,RAISED KNUCKLES),RAISED KNUCKLE,THUMB,UP),THUMB(,BETWEEN(INDEX MIDDLE(,STRAIGHT),",
  "MIDDLE RING,RING LITTLE),FORWARD,HEEL,OVER(FOUR RAISED KNUCKLES,TWO FINGERS),SIDE(BENT,",
  "CONJOINED,DIAGONAL),UNDER(FOUR FINGERS,INDEX BENT,LITTLE UP,THREE FINGERS,TWO FINGERS))),",
  "HAND-FLAT(,BETWEEN PALM FACINGS,FIVE FINGERS SPREAD(,BENT,FOUR BENT,HINGED(,NO THUMB,THUMB ",
  "SIDE),THUMB FORWARD),FOUR FINGERS(,BENT,CONJOINED(,SPLIT),HINGED),HEEL(,FIVE FINGERS SPREAD(,",
  "BENT,FOUR BENT),THUMB SIDE),SPLIT(CENTRE(,THUMB SIDE(,BENT)),INDEX THUMB SIDE,LITTLE),THUMB(",
  "BENT,FORWARD,SIDE)),HAND-HINGE(,FIVE FINGERS SPREAD OPEN,FOUR FINGERS CONJOINED,INDEX(,",
  "HINGED,MIDDLE(LITTLE,RING(,CONJOINED)),RING LITTLE,THUMB(,LARGE,OPEN,SIDE,SMALL)),LITTLE(,",
  "INDEX(,THUMB),THUMB),MIDDLE(,RING LITTLE),NO THUMB,OPEN(,NO THUMB,THUMB(FORWARD,SIDE)),RING(,",
  "DOWN INDEX THUMB HOOK MIDDLE),SMALL,THUMB(BETWEEN MIDDLE RING,SIDE(,TOUCHING INDEX))),",
  "HAND-HOOK(,CURLICUE,INDEX RING LITTLE(IN,OUT,UNDER),MIDDLE(RING LITTLE CONJOINED(,IN,OUT),",
  "THUMB),RING THUMB),HAND-OVAL(,FIVE FINGERS SPREAD,INDEX,LITTLE UP,NO THUMB,RING LITTLE,THUMB(",
  "FORWARD,SIDE)),HEAD(,MOVEMENT CIRCLE,MOVEMENT-FLOORPLANE(CURVE,STRAIGHT),MOVEMENT-WALLPLANE(",
  "CURVE,STRAIGHT,TILT),RIM),LIMB(COMBINATION,LENGTH-1,LENGTH-2,LENGTH-3,LENGTH-4,LENGTH-5,",
  "LENGTH-6,LENGTH-7),LIP(LOWER OVER UPPER,UPPER OVER LOWER),LIPS PRESSED TOGETHER,LOCATION(",
  "DEPTH,HEAD NECK,HEIGHT,LIMBS DIGITS,TORSO,WIDTH),LOCATION-FLOORPLANE SPACE,",
  "LOCATION-WALLPLANE SPACE,MOUTH(CLOSED(CONTACT,FORWARD,NEUTRAL),CORNERS,FROWN(,OPEN,WRINKLED),",
  "KISS(,FORWARD,WRINKLED),OPEN(CIRCLE,FORWARD,OVAL(,WRINKLED,YAWN),RECTANGLE(,WRINKLED,YAWN),",
  "WRINKLED),SMILE(,OPEN,WRINKLED),TENSE(,FORWARD,SUCKED),WRINKLES(DOUBLE,SINGLE)),",
  "MOVEMENT-DIAGONAL(AWAY(LARGE,LARGEST,MEDIUM,SMALL),BETWEEN(AWAY(LARGE,LARGEST,MEDIUM,SMALL),",
  "TOWARDS(LARGE,LARGEST,MEDIUM,SMALL)),TOWARDS(LARGE,LARGEST,MEDIUM,SMALL)),",
  "MOVEMENT-FLOORPLANE(ARM CIRCLE HITTING WALL(LARGE(DOUBLE,SINGLE),MEDIUM(DOUBLE,SINGLE),SMALL(",
  "DOUBLE,SINGLE)),BEND,BOX(LARGE,MEDIUM,SMALL),CHECK,CORNER(LARGE,MEDIUM,SMALL),CROSS,CURVE(",
  "COMBINED,HITTING(CEILING(LARGE,SMALL),FLOOR(LARGE,SMALL)),LARGE,LARGEST,MEDIUM,SMALL),DOUBLE(",
  "ALTERNATING(,WRIST FLEX),STRAIGHT,WRIST FLEX),FINGER(CIRCLES HITTING WALL(DOUBLE,SINGLE),",
  "CONTACT),HUMP(HITTING(CEILING(LARGE(DOUBLE,TRIPLE),SMALL(DOUBLE,TRIPLE)),FLOOR(LARGE DOUBLE,",
  "SMALL DOUBLE,TRIPLE(LARGE TRIPLE,SMALL TRIPLE))),SMALL),JAW,LOOP(HITTING(CEILING(LARGE(",
  "DOUBLE,SINGLE),SMALL(DOUBLE,SINGLE)),FLOOR(LARGE(DOUBLE,SINGLE),SMALL(DOUBLE,SINGLE))),",
  "SMALL),PEAKS(LARGE,MEDIUM,SMALL),SHAKING PARALLEL,SINGLE(STRAIGHT(LARGE,LARGEST,MEDIUM,",
  "SMALL),WRIST FLEX),TRIPLE(ALTERNATING(MOVEMENT,WRIST FLEX),STRAIGHT MOVEMENT,WRIST FLEX),",
  "WAVE(HITTING(CEILING(LARGE,SMALL),FLOOR(LARGE,SMALL)),LARGE,SMALL,SNAKE),WRIST CIRCLE ",
  "HITTING WALL(DOUBLE,SINGLE),ZIGZAG(LARGE,MEDIUM,SMALL)),MOVEMENT-HINGE(DOWN SEQUENTIAL,SIDE ",
  "TO SIDE SCISSORS,UP(DOWN(ALTERNATING(LARGE,SMALL),LARGE,SMALL),SEQUENTIAL)),",
  "MOVEMENT-WALLPLANE(ARM CIRCLE(MEDIUM(DOUBLE,SINGLE),SMALL(DOUBLE,SINGLE)),BEND(LARGE,MEDIUM,",
  "SMALL),BOX(LARGE,MEDIUM,SMALL),CHECK(LARGE,MEDIUM,SMALL),CORNER(LARGE,MEDIUM,ROTATION,SMALL),",
  "CROSS,CURVE(HALF-CIRCLE(LARGE,LARGEST,MEDIUM,SMALL),HITTING(CHEST,FRONT WALL),QUARTER(LARGE,",
  "LARGEST,MEDIUM,SMALL),THEN STRAIGHT,THREE-QUARTER CIRCLE(MEDIUM,SMALL)),CURVED CROSS(MEDIUM,",
  "SMALL),DOUBLE(ALTERNATING(,WRIST FLEX),STRAIGHT,WRIST FLEX),FINGER(CIRCLES(DOUBLE,SINGLE),",
  "CONTACT),HUMP(HITTING(CHEST,FRONT WALL),LARGE,MEDIUM,SMALL),JAW,LOOP(HITTING(CHEST,FRONT ",
  "WALL),LARGE,MEDIUM,SMALL(,DOUBLE)),PEAKS(LARGE,MEDIUM,SMALL),SHAKING,SINGLE(STRAIGHT(LARGE,",
  "LARGEST,MEDIUM,SMALL),WRIST FLEX),TRIPLE(ALTERNATING(,WRIST FLEX),STRAIGHT MOVEMENT,WRIST ",
  "FLEX),WAVE(CURVE(DOUBLE(LARGE,MEDIUM,SMALL),TRIPLE(LARGE,MEDIUM,SMALL)),DIAGONAL PATH(LARGE,",
  "MEDIUM,SMALL),HITTING(CHEST,FRONT WALL)),WRIST CIRCLE FRONT(DOUBLE,SINGLE),ZIGZAG(LARGE,",
  "MEDIUM,SMALL)),NECK,NOSE(CONTACT,NEUTRAL,WIGGLES,WRINKLES),PARENTHESIS,ROTATION(MODIFIER-10,",
  "MODIFIER-11,MODIFIER-12,MODIFIER-13,MODIFIER-14,MODIFIER-15,MODIFIER-16,MODIFIER-2,",
  "MODIFIER-3,MODIFIER-4,MODIFIER-5,MODIFIER-6,MODIFIER-7,MODIFIER-8,MODIFIER-9),",
  "ROTATION-FLOORPLANE(ALTERNATING(,HITTING(CEILING,FLOOR)),DOUBLE(,HITTING(CEILING,FLOOR)),",
  "SINGLE(,HITTING(CEILING,FLOOR))),ROTATION-WALLPLANE(ALTERNATE,ALTERNATING HITTING(CHEST,",
  "FRONT WALL),DOUBLE(,HITTING(CHEST,FRONT WALL)),SINGLE(,HITTING(CHEST,FRONT WALL))),RUB(",
  "BETWEEN,MULTIPLE,SINGLE),SEMICOLON,SHOULDER(HIP(POSITIONS,SPINE),TILTING FROM WAIST),SQUEEZE(",
  "FLICK ALTERNATING,LARGE(MULTIPLE,SINGLE),SEQUENTIAL,SMALL(MULTIPLE,SINGLE)),STRIKE(BETWEEN,",
  "MULTIPLE,SINGLE),SURFACE(BETWEEN,SYMBOLS),TEETH(,BITE LIPS,MOVEMENT,ON(LIPS(,MOVEMENT),",
  "TONGUE(,MOVEMENT))),TENSE CHEEKS(HIGH,LOW,MIDDLE),TONGUE(CENTRE(INSIDE MOUTH,STICKING OUT),",
  "INSIDE MOUTH RELAXED,LICKING LIPS,MOVES AGAINST CHEEK,STICKING OUT FAR,TIP(BETWEEN LIPS,",
  "TOUCHING INSIDE MOUTH)),TORSO-FLOORPLANE TWISTING,TORSO-WALLPLANE(CURVED BEND,STRAIGHT ",
  "STRETCH),TOUCH(BETWEEN,MULTIPLE,SINGLE),TRAVEL-FLOORPLANE(ROTATION-FLOORPLANE(ALTERNATING,",
  "DOUBLE,SINGLE),ROTATION-WALLPLANE(ALTERNATING,DOUBLE,SINGLE),SHAKING),TRAVEL-WALLPLANE(ARM ",
  "SPIRAL(DOUBLE,SINGLE,TRIPLE),ROTATION-FLOORPLANE(ALTERNATING,DOUBLE,SINGLE),",
  "ROTATION-WALLPLANE(ALTERNATING,DOUBLE,SINGLE),SHAKING),UPPER BODY TILTING FROM HIP JOINTS,",
  "WALLPLANE SHOULDER HIP MOVE),SILHOUETTE OF JAPAN,SIMILAR(ABOVE(GREATER-THAN ABOVE EQUALS ",
  "SIGN,LESS-THAN ABOVE EQUALS SIGN),MINUS SIMILAR,OR(GREATER-THAN,LESS-THAN)),SINE WAVE,SINGLE(",
  "CHARACTER INTRODUCER,GRAPHIC CHARACTER INTRODUCER,HIGH-REVERSED-9 QUOTATION MARK,",
  "LEFT-POINTING ANGLE QUOTATION MARK,LOW-9 QUOTATION MARK,RIGHT-POINTING ANGLE QUOTATION MARK,",
  "SHIFT(THREE,TWO)),SINGLE-SHIFT-2,SINGLE-SHIFT-3,SINHALA(ARCHAIC(DIGIT(EIGHT,FIVE,FOUR,NINE,",
  "ONE,SEVEN,SIX,THREE,TWO),NUMBER(EIGHTY,FIFTY,FORTY,NINETY,ONE(HUNDRED,THOUSAND),SEVENTY,",
  "SIXTY,TEN,THIRTY,TWENTY)),LETTER(AAYANNA,AEEYANNA,AEYANNA,AIYANNA,ALPAPRAANA(BAYANNA,CAYANNA,",
  "DAYANNA,DDAYANNA,GAYANNA,JAYANNA,KAYANNA,PAYANNA,TAYANNA,TTAYANNA),AMBA BAYANNA,AUYANNA,",
  "AYANNA,DANTAJA(LAYANNA,NAYANNA,SAYANNA),EEYANNA,EYANNA,FAYANNA,HAYANNA,IIYANNA,ILUUYANNA,",
  "ILUYANNA,IRUUYANNA,IRUYANNA,IYANNA,KANTAJA NAASIKYAYA,MAHAAPRAANA(BAYANNA,CAYANNA,DAYANNA,",
  "DDAYANNA,GAYANNA,JAYANNA,KAYANNA,PAYANNA,TAYANNA,TTAYANNA),MAYANNA,MUURDHAJA(LAYANNA,NAYANNA,",
  "SAYANNA),OOYANNA,OYANNA,RAYANNA,SANYAKA(DAYANNA,DDAYANNA,GAYANNA,JAYANNA),TAALUJA(NAASIKYAYA,",
  "SANYOOGA NAAKSIKYAYA,SAYANNA),UUYANNA,UYANNA,VAYANNA,YAYANNA),LITH DIGIT(EIGHT,FIVE,FOUR,",
  "NINE,ONE,SEVEN,SIX,THREE,TWO,ZERO),PUNCTUATION KUNDDALIYA,SIGN(AL-LAKUNA,ANUSVARAYA,",
  "CANDRABINDU,VISARGAYA),VOWEL SIGN(AELA-PILLA,DIGA(AEDA-PILLA,GAETTA-PILLA,GAYANUKITTA,",
  "IS-PILLA,KOMBUVA,PAA-PILLA),GAETTA-PILLA,GAYANUKITTA,KETTI(AEDA-PILLA,IS-PILLA,PAA-PILLA),",
  "KOMBU DEKA,KOMBUVA(,HAA(AELA-PILLA,DIGA AELA-PILLA,GAYANUKITTA)))),SIX(PETALLED BLACK AND ",
  "WHITE FLORETTE,POINTED(BLACK STAR,PINWHEEL STAR,STAR WITH MIDDLE DOT)),SIX-PER-EM SPACE,",
  "SIXTEEN POINTED ASTERISK,SKATEBOARD,SKI AND SKI BOOT,SKIER,SKULL(,AND CROSSBONES),SKUNK,",
  "SLANTED(EQUAL TO OR(GREATER-THAN(,WITH DOT INSIDE),LESS-THAN(,WITH DOT INSIDE)),NORTH ARROW ",
  "WITH(HOOKED HEAD,HORIZONTAL TAIL)),SLAVONIC ASTERISK,SLED,SLEEPING(ACCOMMODATION,FACE,",
  "SYMBOL),SLEEPY FACE,SLEUTH OR SPY,SLICE OF PIZZA,SLIGHTLY(FROWNING FACE,SMILING FACE),SLOPE,",
  "SLOPING LARGE(AND,OR),SLOT MACHINE,SLOTH,SMALL(AIRPLANE,AMPERSAND,ASTERISK,BLUE DIAMOND,",
  "COLON,COMMA,COMMERCIAL AT,CONTAINS(AS MEMBER,WITH(OVERBAR,VERTICAL BAR AT END OF HORIZONTAL ",
  "STROKE)),DOLLAR SIGN,ELEMENT OF(,WITH(OVERBAR,VERTICAL BAR AT END OF HORIZONTAL STROKE)),EM ",
  "DASH,EQUALS SIGN,EXCLAMATION MARK,FULL STOP,GREATER-THAN SIGN,HYPHEN-MINUS,IDEOGRAPHIC COMMA,",
  "LEFT(CURLY BRACKET,PARENTHESIS,TORTOISE SHELL BRACKET),LESS-THAN SIGN,NUMBER SIGN,ORANGE ",
  "DIAMOND,PERCENT SIGN,PLUS SIGN,QUESTION MARK,REVERSE SOLIDUS,RIGHT(CURLY BRACKET,PARENTHESIS,",
  "TORTOISE SHELL BRACKET),ROMAN NUMERAL(EIGHT,ELEVEN,FIFTY,FIVE(,HUNDRED),FOUR,NINE,ONE(,",
  "HUNDRED,THOUSAND),SEVEN,SIX,TEN,THREE,TWELVE,TWO),SEMICOLON,TILDE,TWO DOTS OVER ONE DOT ",
  "PUNCTUATION,VEE WITH UNDERBAR),SMALLER THAN(,OR EQUAL TO),SMASH PRODUCT,SMILE,SMILING(CAT ",
  "FACE WITH(HEART-SHAPED EYES,OPEN MOUTH),FACE WITH(HALO,HEART-SHAPED EYES,HORNS,OPEN MOUTH(,",
  "AND(COLD SWEAT,SMILING EYES,TIGHTLY-CLOSED EYES)),SMILING EYES(,AND(HAND COVERING MOUTH,",
  "THREE HEARTS)),SUNGLASSES,TEAR)),SMIRKING FACE,SMOKING SYMBOL,SNAIL,SNAKE,SNEEZING FACE,SNOW ",
  "CAPPED MOUNTAIN,SNOWBOARDER,SNOWFLAKE,SNOWMAN(,WITHOUT SNOW),SO,SOCCER BALL,SOCKS,SOFT(",
  "HYPHEN,ICE CREAM,SHELL FLOPPY DISK),SOFTBALL,SOFTWARE-FUNCTION SYMBOL,SOGDIAN(COMBINING(",
  "CURVE(ABOVE,BELOW),DOT(ABOVE,BELOW),HOOK(ABOVE,BELOW),LONG HOOK BELOW,RESH BELOW,STROKE ",
  "BELOW,TWO DOTS(ABOVE,BELOW)),INDEPENDENT SHIN,LETTER(ALEPH,AYIN,BETH,FETH,GIMEL,HE,HETH,KAPH,",
  "LAMEDH,LESH,MEM,NUN,PE,RESH-AYIN,SADHE,SAMEKH,SHIN,TAW,WAW,YODH,ZAYIN),NUMBER(ONE(,HUNDRED),",
  "TEN,TWENTY),PUNCTUATION(CIRCLE WITH DOT,HALF CIRCLE WITH DOT,TWO(CIRCLES WITH DOTS,VERTICAL ",
  "BARS(,WITH DOTS)))),SOH,SOLID QUILT SQUARE ORNAMENT(,IN BLACK SQUARE),SOLIDUS(,WITH OVERBAR),",
  "SOM SIGN,SOON WITH RIGHTWARDS ARROW ABOVE,SORA SOMPENG(DIGIT(EIGHT,FIVE,FOUR,NINE,ONE,SEVEN,",
  "SIX,THREE,TWO,ZERO),LETTER(AH,BAH,CAH,DAH,EEH,EH,GAH,HAH,IH,JAH,KAH,LAH,MAE,MAH,NAH,NGAH,",
  "NYAH,OH,PAH,RAH,SAH,TAH,UH,VAH,YAH)),SOS,SOUND RECORDING COPY",
  "RIGHT,SOUTH(EAST(ARROW(,AND SOUTH WEST ARROW,CROSSING NORTH EAST ARROW,TO CORNER,WITH HOOK),",
  "BLACK ARROW,DOUBLE ARROW,POINTING(BUD,LEAF,VINE LEAF),SANS-SERIF ARROW,TRIANGLE-HEADED ARROW(",
  ",TO BAR),WHITE ARROW),WEST(ARROW(,AND NORTH WEST ARROW,WITH HOOK),BLACK ARROW,DOUBLE ARROW,",
  "POINTING(BUD,LEAF,VINE LEAF),SANS-SERIF ARROW,TRIANGLE-HEADED ARROW(,TO BAR),WHITE ARROW)),",
  "SOYOMBO(CLUSTER-INITIAL LETTER(LA,RA,SA,SHA),FINAL CONSONANT SIGN(-A,B,D,G,K,L,M,N,NG,R,S,",
  "SH),GEMINATION MARK,HEAD MARK WITH MOON AND SUN(,AND(FLAME,TRIPLE FLAME)),LETTER(-A,A,BA,BHA,",
  "CA,CHA,DA,DDA,DDHA,DHA,DZA,GA,GHA,HA,JA,JHA,KA,KHA,KSSA,LA,MA,NA,NGA,NNA,NYA,PA,PHA,RA,SA,",
  "SHA,SSA,TA,THA,TSA,TSHA,TTA,TTHA,VA,YA,ZA,ZHA),MARK(DOUBLE SHAD,PLUTA,SHAD,TSHEG),SIGN(",
  "ANUSVARA,JIHVAMULIYA,UPADHMANIYA,VISARGA),SUBJOINER,TERMINAL(MARK-1,MARK-2),VOWEL(LENGTH ",
  "MARK,SIGN(AI,AU,E,I,O,OE,U,UE,VOCALIC(L,R)))),SP,SPA,SPACE,SPAGHETTI,SPARKLE,SPARKLES,",
  "SPARKLING HEART,SPEAK-NO-EVIL MONKEY,SPEAKER(,WITH(CANCELLATION STROKE,ONE SOUND WAVE,THREE ",
  "SOUND WAVES)),SPEAKING HEAD IN SILHOUETTE,SPEECH BALLOON,SPEEDBOAT,SPESMILO SIGN,SPHERICAL ",
  "ANGLE(,OPENING(LEFT,UP)),SPIDER(,WEB),SPIRAL(CALENDAR PAD,NOTE PAD,SHELL),SPLASHING SWEAT ",
  "SYMBOL,SPONGE,SPOOL OF THREAD,SPOON,SPORTS MEDAL,SPOUTING WHALE,SQUARE(A OVER M,AARU,AM,",
  "ANPEA,APAATO,ARUHUA,AU,BAARERU,BAR,BEETA,BIRU,BORUTO,BQ,BUSSYERU,C OVER KG,CAL,CAP,CC,CD,CM(,",
  "CUBED,SQUARED),CO,CORPORATION,CUP,DA,DAASU,DB,DESI,DJ,DL,DM(,CUBED,SQUARED),DORU,EEKAA,ERA ",
  "NAME(HEISEI,MEIZI,REIWA,SYOUWA,TAISYOU),ERG,ESUKUUDO,EV,FM,FOOT,FOUR CORNERS,GAL,GANMA,GARON,",
  "GB,GHZ,GIGA,GINII,GIRUDAA,GPA,GURAMU,GURAMUTON,GY,HA,HAITU,HEKUTAARU,HERUTU,HG,HIRAGANA HOKA,",
  "HON,HOON,HOORU,HP,HPA,HUARADDO,HUIITO,HURAN,HZ,IMAGE OF(,OR(EQUAL TO,NOT EQUAL TO)),IN,",
  "ININGU,INTI,IU,K OHM,KA,KAIRI,KARATTO,KARORII,KB,KCAL,KEESU,KG,KHZ,KIRO,KIROGURAMU,",
  "KIROMEETORU,KIROWATTO,KK,KL,KM(,CAPITAL,CUBED,SQUARED),KOOPO,KORUNA,KPA,KT,KUROONE,KURUZEIRO,",
  "KV,KW,KYURII,LEFT OPEN BOX OPERATOR,LM,LN,LOG,LOZENGE,LX,M(CUBED,OHM,OVER S(,SQUARED),",
  "SQUARED),MA,MAHHA,MAIKURO,MAIRU,MANSYON,MARUKU,MB(,SMALL),MEETORU,MEGA,MEGATON,MG,MHZ,",
  "MIKURON,MIL,MIRI,MIRIBAARU,ML,MM(,CUBED,SQUARED),MOL,MPA,MS,MU(A,F,G,L,M,S,V,W),MV(,MEGA),MW(",
  ",MEGA),NA,NANO,NF,NM,NOTTO,NS,NV,NW,ONSU,OOMU,ORIG",
  "INAL OF(,OR(EQUAL TO,NOT EQUAL TO)),OV,PA(,AMPS),PAASENTO,PAATU,PC,PEEZI,PENIHI,PENSU,PESO,",
  "PF,PH,PIASUTORU,PIKO,PIKURU,PM,POINTO,PONDO,POSITION INDICATOR,PPM,PR,PS,PV,PW,RAD(,OVER S(,",
  "SQUARED)),REMU,RENTOGEN,RIGHT OPEN BOX OPERATOR,RIRA,RITTORU,ROOT,RUPII,RUUBURU,SAIKURU,",
  "SANTIIMU,SENTI,SENTO,SIRINGU,SR,SV,TARGET,THZ,TON,UON,V OVER M,WATTO,WB,WITH(BOTTOM HALF ",
  "BLACK,CONTOURED OUTLINE,DIAGONAL CROSSHATCH FILL,HORIZONTAL FILL,LEFT HALF BLACK,LOWER(LEFT ",
  "DIAGONAL HALF BLACK,RIGHT DIAGONAL HALF BLACK),ORTHOGONAL CROSSHATCH FILL,RIGHT HALF BLACK,",
  "TOP HALF BLACK,UPPER(LEFT(DIAGONAL HALF BLACK,TO LOWER RIGHT FILL),RIGHT(DIAGONAL HALF BLACK,",
  "TO LOWER LEFT FILL)),VERTICAL FILL),YAADO,YAARU,YUAN),SQUARED(ASTERISK,CJK UNIFIED(",
  "IDEOGRAPH-4E00,IDEOGRAPH-4E09,IDEOGRAPH-4E2D,IDEOGRAPH-4E8C,IDEOGRAPH-4EA4,IDEOGRAPH-518D,",
  "IDEOGRAPH-521D,IDEOGRAPH-524D,IDEOGRAPH-5272,IDEOGRAPH-53CC,IDEOGRAPH-53F3,IDEOGRAPH-5408,",
  "IDEOGRAPH-5439,IDEOGRAPH-55B6,IDEOGRAPH-58F0,IDEOGRAPH-591A,IDEOGRAPH-5929,IDEOGRAPH-5B57,",
  "IDEOGRAPH-5DE6,IDEOGRAPH-5F8C,IDEOGRAPH-624B,IDEOGRAPH-6253,IDEOGRAPH-6295,IDEOGRAPH-6307,",
  "IDEOGRAPH-6355,IDEOGRAPH-6599,IDEOGRAPH-65B0,IDEOGRAPH-6620,IDEOGRAPH-6708,IDEOGRAPH-6709,",
  "IDEOGRAPH-6E80,IDEOGRAPH-6F14,IDEOGRAPH-7121,IDEOGRAPH-751F,IDEOGRAPH-7533,IDEOGRAPH-7981,",
  "IDEOGRAPH-7A7A,IDEOGRAPH-7D42,IDEOGRAPH-89E3,IDEOGRAPH-8CA9,IDEOGRAPH-8D70,IDEOGRAPH-904A,",
  "IDEOGRAPH-914D),CL,COOL,DOT OPERATOR,EIGHT K,FALLING DIAGONAL SLASH,FIVE POINT ONE,FOUR(DOT ",
  "PUNCTUATION,K),FREE,HC,HDR,HI-RES,HV,ID,KATAKANA(DE,KOKO,SA),KEY,LATIN(CAPITAL LETTER(A,B,C,",
  "D,E,F,G,H,I,J,K,L,M,N,O,P,Q,R,S,T,U,V,W,X,Y,Z),SMALL LETTER D),LOGICAL(AND,OR),LOSSLESS,",
  "MINUS,MV,NEW,NG,OK,ONE HUNDRED TWENTY P,PLUS,PPV,RISING DIAGONAL SLASH,SALTIRE,SD,SECOND ",
  "SCREEN,SEVEN POINT ONE,SHV,SIXTY P,SMALL CIRCLE,SOS,SQUARE,SS,THREE D,TIMES,TWENTY-TWO POINT ",
  "TWO,TWO K,UHD,UP WITH EXCLAMATION MARK,VOD,VS,WC),SQUAT BLACK RIGHTWARDS ARROW,SQUID,SS2,SS3,",
  "SSA,ST,STADIUM,STAFF OF(AESCULAPIUS,HERMES),STAMPED ENVELOPE,STANDING PERSON,STAR(AND ",
  "CRESCENT,EQUALS,OF DAVID,OPERATOR,WITH(LEFT HALF BLACK,RIGHT HALF BLACK)),START OF(GUARDED ",
  "AREA,HEADING,PROTECTED AREA,SELECTED AREA,STRING,TEXT),STATION,STATUE OF LIBERTY,STEAM ",
  "LOCOMOTIVE,STEAMING BOWL,STENOGRAPHIC FULL STOP,STETHOSCOPE,STICK FIGURE(,LEANING(LEFT,",
  "RIGHT),WITH(ARMS RAISED,DRESS)),STOCK CHART,STOPWATCH,STRAIGHT RULER,STRAIGHTNESS,STRAWBERRY,",
  "STRESS OUTLINED WHITE STAR,STRICTLY EQUIVALENT TO,STRING TERMINATOR,STS,STUDIO MICROPHONE,",
  "STUFFED FLATBREAD,STUPA,STX,SUB,SUBSCRIPT(EIGHT,EQUALS SIGN,FIVE,FOUR,LEFT PARENTHESIS,MINUS,",
  "NINE,ONE,PLUS SIGN,RIGHT PARENTHESIS,SEVEN,SIX,THREE,TWO,ZERO),SUBSET(ABOVE(RIGHTWARDS ARROW,",
  "SUBSET,SUPERSET),OF(,ABOVE(ALMOST EQUAL TO,EQUALS SIGN,NOT EQUAL TO,TILDE OPERATOR),OR EQUAL ",
  "TO(,WITH DOT ABOVE),WITH NOT EQUAL TO),WITH(DOT,MULTIPLICATION SIGN BELOW,PLUS SIGN BELOW)),",
  "SUBSTITUTE,SUCCEEDS(,ABOVE(ALMOST EQUAL TO,EQUALS SIGN,NOT(ALMOST EQUAL TO,EQUAL TO),",
  "SINGLE-LINE(EQUALS SIGN,NOT EQUAL TO)),BUT NOT EQUIVALENT TO,OR(EQUAL TO,EQUIVALENT TO),",
  "UNDER RELATION),SUMMATION(BOTTOM,TOP,WITH INTEGRAL),SUN(,BEHIND CLOUD,WITH FACE),SUNDANESE(",
  "AVAGRAHA,CONSONANT SIGN(PAMINGKAL,PANYAKRA,PANYIKU,PASANGAN(MA,WA)),DIGIT(EIGHT,FIVE,FOUR,",
  "NINE,ONE,SEVEN,SIX,THREE,TWO,ZERO),LETTER(A,AE,BA,BHA,CA,DA,E,EU,FA,FINAL(K,M),GA,HA,I,JA,KA,",
  "KHA,LA,LEU,MA,NA,NGA,NYA,O,PA,QA,RA,REU,SA,SYA,TA,U,VA,WA,XA,YA,ZA),PUNCTUATION BINDU(BA ",
  "SATANGA,CAKRA,DA SATANGA,KA SATANGA,LEU SATANGA,PANGLONG,PURNAMA,SURYA),SIGN(PAMAAEH,",
  "PANGLAYAR,PANGWISAD,PANYECEK,VIRAMA),VOWEL SIGN(PAMEPET,PANAELAENG,PANEULEUNG,PANGHULU,",
  "PANOLONG,PANYUKU)),SUNFLOWER,SUNRISE(,OVER MOUNTAINS),SUNSET OVER BUILDINGS,SUPERHERO,",
  "SUPERSCRIPT(EIGHT,EQUALS SIGN,FIVE,FOUR,LATIN SMALL LETTER(I,N),LEFT PARENTHESIS,MINUS,NINE,",
  "ONE,PLUS SIGN,RIGHT PARENTHESIS,SEVEN,SIX,THREE,TWO,ZERO),SUPERSET(ABOVE(LEFTWARDS ARROW,",
  "SUBSET,SUPERSET),BESIDE(AND JOINED BY DASH WITH SUBSET,SUBSET),OF(,ABOVE(ALMOST EQUAL TO,",
  "EQUALS SIGN,NOT EQUAL TO,TILDE OPERATOR),OR EQUAL TO(,WITH DOT ABOVE),WITH NOT EQUAL TO),",
  "PRECEDING SOLIDUS,WITH(DOT,MULTIPLICATION SIGN BELOW,PLUS SIGN BELOW)),SUPERVILLAIN,SURFACE ",
  "INTEGRAL,SURFER,SUSHI,SUSPENSION RAILWAY,SWAN,SWASH AMPERSAND ORNAMENT,SWIMMER,SWUNG DASH,",
  "SYLOTI NAGRI(LETTER(A,BHO,BO,CHO,CO,DDHO,DDO,DHO,DO,E,GHO,GO,HO,I,JHO,JO,KHO,KO,LO,MO,NO,O,",
  "PHO,PO,RO,RRO,SO,THO,TO,TTHO,TTO,U),POETRY(MARK-1,MARK-2,MARK-3,MARK-4),SIGN(ALTERNATE ",
  "HASANTA,ANUSVARA,DVISVARA,HASANTA),VOWEL SIGN(A,E,I,OO,U)),SYMBOL FOR(ACKNOWLEDGE,BACKSPACE,",
  "BELL,CANCEL,CARRIAGE RETURN,DATA LINK ESCAPE,DELETE(,FORM TWO),DEVICE CONTROL(FOUR,ONE,THREE,",
  "TWO),END OF(MEDIUM,TEXT,TRANSMISSION(,BLOCK)),ENQUIRY,ESCAPE,FILE SEPARATOR,FORM FEED,GROUP ",
  "SEPARATOR,HORIZONTAL TABULATION,LINE FEED,MARKS CHAPTER,NEGATIVE ACKNOWLEDGE,NEWLINE,NULL,",
  "RECORD SEPARATOR,SAMARITAN SOURCE,SHIFT(IN,OUT),SPACE,START OF(HEADING,TEXT),SUBSTITUTE(,",
  "FORM TWO),SYNCHRONOUS IDLE,TYPE A ELECTRONICS,UNIT SEPARATOR,VERTICAL TABULATION),SYMMETRY,",
  "SYN,SYNAGOGUE,SYNCHRONOUS IDLE,SYRIAC(ABBREVIATION MARK,BARREKH,COLON SKEWED(LEFT,RIGHT),",
  "CONTRACTION,DOTTED ZLAMA(ANGULAR,HORIZONTAL),END OF PARAGRAPH,ESASA(ABOVE,BELOW),FEMININE ",
  "DOT,HARKLEAN(ASTERISCUS,METOBELUS,OBELUS),HBASA(ABOVE,BELOW),HBASA-ESASA DOTTED,HORIZONTAL ",
  "COLON,LETTER(ALAPH,BETH,DALATH,DOTLESS DALATH RISH,E,FINAL SEMKATH,GAMAL(,GARSHUNI),HE,HETH,",
  "KAPH,LAMADH,MALAYALAM(BHA,JA,LLA,LLLA,NGA,NNA,NNNA,NYA,RA,SSA,TTA),MIM,NUN,PE,PERSIAN(BHETH,",
  "DHALATH,GHAMAL),QAPH,REVERSED PE,RISH,SADHE,SEMKATH,SHIN,SOGDIAN(FE,KHAPH,ZHAIN),SUPERSCRIPT ",
  "ALAPH,TAW,TETH(,GARSHUNI),WAW,YUDH(,HE),ZAIN),MUSIC,OBLIQUE LINE(ABOVE,BELOW),PTHAHA(ABOVE,",
  "BELOW,DOTTED),QUSHSHAYA,RBASA(ABOVE,BELOW),RUKKAKHA,RWAHA,SUBLINEAR(COLON(,SKEWED(LEFT,",
  "RIGHT)),FULL STOP),SUPRALINEAR(COLON(,SKEWED LEFT),FULL STOP),THREE DOTS(ABOVE,BELOW),TWO ",
  "VERTICAL DOTS(ABOVE,BELOW),ZQAPHA(ABOVE,BELOW,DOTTED)),SYRINGE"]

end SwitchTrace.CharacterName
