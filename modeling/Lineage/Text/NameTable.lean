/-!
Names of characters, Unicode version 14: Latin, Greek and Cyrillic letters, the main Hebrew and Arabic
letters, kana, punctuation, currency signs, letterlike symbols, number forms, arrows, mathematical and
technical symbols, box drawing, geometric shapes, dingbats and pictographs, and the aliases of
control and format characters.
-/

namespace Lineage.Text

/-- Names in rising order of the code point, one a line after the distance to the code point before,
in hexadecimal. -/
def nameTable : String :=
    "20 SPACE
    1 EXCLAMATION MARK
    1 QUOTATION MARK
    1 NUMBER SIGN
    1 DOLLAR SIGN
    1 PERCENT SIGN
    1 AMPERSAND
    1 APOSTROPHE
    1 LEFT PARENTHESIS
    1 RIGHT PARENTHESIS
    1 ASTERISK
    1 PLUS SIGN
    1 COMMA
    1 HYPHEN-MINUS
    1 FULL STOP
    1 SOLIDUS
    1 DIGIT ZERO
    1 DIGIT ONE
    1 DIGIT TWO
    1 DIGIT THREE
    1 DIGIT FOUR
    1 DIGIT FIVE
    1 DIGIT SIX
    1 DIGIT SEVEN
    1 DIGIT EIGHT
    1 DIGIT NINE
    1 COLON
    1 SEMICOLON
    1 LESS-THAN SIGN
    1 EQUALS SIGN
    1 GREATER-THAN SIGN
    1 QUESTION MARK
    1 COMMERCIAL AT
    1 LATIN CAPITAL LETTER A
    1 LATIN CAPITAL LETTER B
    1 LATIN CAPITAL LETTER C
    1 LATIN CAPITAL LETTER D
    1 LATIN CAPITAL LETTER E
    1 LATIN CAPITAL LETTER F
    1 LATIN CAPITAL LETTER G
    1 LATIN CAPITAL LETTER H
    1 LATIN CAPITAL LETTER I
    1 LATIN CAPITAL LETTER J
    1 LATIN CAPITAL LETTER K
    1 LATIN CAPITAL LETTER L
    1 LATIN CAPITAL LETTER M
    1 LATIN CAPITAL LETTER N
    1 LATIN CAPITAL LETTER O
    1 LATIN CAPITAL LETTER P
    1 LATIN CAPITAL LETTER Q
    1 LATIN CAPITAL LETTER R
    1 LATIN CAPITAL LETTER S
    1 LATIN CAPITAL LETTER T
    1 LATIN CAPITAL LETTER U
    1 LATIN CAPITAL LETTER V
    1 LATIN CAPITAL LETTER W
    1 LATIN CAPITAL LETTER X
    1 LATIN CAPITAL LETTER Y
    1 LATIN CAPITAL LETTER Z
    1 LEFT SQUARE BRACKET
    1 REVERSE SOLIDUS
    1 RIGHT SQUARE BRACKET
    1 CIRCUMFLEX ACCENT
    1 LOW LINE
    1 GRAVE ACCENT
    1 LATIN SMALL LETTER A
    1 LATIN SMALL LETTER B
    1 LATIN SMALL LETTER C
    1 LATIN SMALL LETTER D
    1 LATIN SMALL LETTER E
    1 LATIN SMALL LETTER F
    1 LATIN SMALL LETTER G
    1 LATIN SMALL LETTER H
    1 LATIN SMALL LETTER I
    1 LATIN SMALL LETTER J
    1 LATIN SMALL LETTER K
    1 LATIN SMALL LETTER L
    1 LATIN SMALL LETTER M
    1 LATIN SMALL LETTER N
    1 LATIN SMALL LETTER O
    1 LATIN SMALL LETTER P
    1 LATIN SMALL LETTER Q
    1 LATIN SMALL LETTER R
    1 LATIN SMALL LETTER S
    1 LATIN SMALL LETTER T
    1 LATIN SMALL LETTER U
    1 LATIN SMALL LETTER V
    1 LATIN SMALL LETTER W
    1 LATIN SMALL LETTER X
    1 LATIN SMALL LETTER Y
    1 LATIN SMALL LETTER Z
    1 LEFT CURLY BRACKET
    1 VERTICAL LINE
    1 RIGHT CURLY BRACKET
    1 TILDE
    22 NO-BREAK SPACE
    1 INVERTED EXCLAMATION MARK
    1 CENT SIGN
    1 POUND SIGN
    1 CURRENCY SIGN
    1 YEN SIGN
    1 BROKEN BAR
    1 SECTION SIGN
    1 DIAERESIS
    1 COPYRIGHT SIGN
    1 FEMININE ORDINAL INDICATOR
    1 LEFT-POINTING DOUBLE ANGLE QUOTATION MARK
    1 NOT SIGN
    1 SOFT HYPHEN
    1 REGISTERED SIGN
    1 MACRON
    1 DEGREE SIGN
    1 PLUS-MINUS SIGN
    1 SUPERSCRIPT TWO
    1 SUPERSCRIPT THREE
    1 ACUTE ACCENT
    1 MICRO SIGN
    1 PILCROW SIGN
    1 MIDDLE DOT
    1 CEDILLA
    1 SUPERSCRIPT ONE
    1 MASCULINE ORDINAL INDICATOR
    1 RIGHT-POINTING DOUBLE ANGLE QUOTATION MARK
    1 VULGAR FRACTION ONE QUARTER
    1 VULGAR FRACTION ONE HALF
    1 VULGAR FRACTION THREE QUARTERS
    1 INVERTED QUESTION MARK
    1 LATIN CAPITAL LETTER A WITH GRAVE
    1 LATIN CAPITAL LETTER A WITH ACUTE
    1 LATIN CAPITAL LETTER A WITH CIRCUMFLEX
    1 LATIN CAPITAL LETTER A WITH TILDE
    1 LATIN CAPITAL LETTER A WITH DIAERESIS
    1 LATIN CAPITAL LETTER A WITH RING ABOVE
    1 LATIN CAPITAL LETTER AE
    1 LATIN CAPITAL LETTER C WITH CEDILLA
    1 LATIN CAPITAL LETTER E WITH GRAVE
    1 LATIN CAPITAL LETTER E WITH ACUTE
    1 LATIN CAPITAL LETTER E WITH CIRCUMFLEX
    1 LATIN CAPITAL LETTER E WITH DIAERESIS
    1 LATIN CAPITAL LETTER I WITH GRAVE
    1 LATIN CAPITAL LETTER I WITH ACUTE
    1 LATIN CAPITAL LETTER I WITH CIRCUMFLEX
    1 LATIN CAPITAL LETTER I WITH DIAERESIS
    1 LATIN CAPITAL LETTER ETH
    1 LATIN CAPITAL LETTER N WITH TILDE
    1 LATIN CAPITAL LETTER O WITH GRAVE
    1 LATIN CAPITAL LETTER O WITH ACUTE
    1 LATIN CAPITAL LETTER O WITH CIRCUMFLEX
    1 LATIN CAPITAL LETTER O WITH TILDE
    1 LATIN CAPITAL LETTER O WITH DIAERESIS
    1 MULTIPLICATION SIGN
    1 LATIN CAPITAL LETTER O WITH STROKE
    1 LATIN CAPITAL LETTER U WITH GRAVE
    1 LATIN CAPITAL LETTER U WITH ACUTE
    1 LATIN CAPITAL LETTER U WITH CIRCUMFLEX
    1 LATIN CAPITAL LETTER U WITH DIAERESIS
    1 LATIN CAPITAL LETTER Y WITH ACUTE
    1 LATIN CAPITAL LETTER THORN
    1 LATIN SMALL LETTER SHARP S
    1 LATIN SMALL LETTER A WITH GRAVE
    1 LATIN SMALL LETTER A WITH ACUTE
    1 LATIN SMALL LETTER A WITH CIRCUMFLEX
    1 LATIN SMALL LETTER A WITH TILDE
    1 LATIN SMALL LETTER A WITH DIAERESIS
    1 LATIN SMALL LETTER A WITH RING ABOVE
    1 LATIN SMALL LETTER AE
    1 LATIN SMALL LETTER C WITH CEDILLA
    1 LATIN SMALL LETTER E WITH GRAVE
    1 LATIN SMALL LETTER E WITH ACUTE
    1 LATIN SMALL LETTER E WITH CIRCUMFLEX
    1 LATIN SMALL LETTER E WITH DIAERESIS
    1 LATIN SMALL LETTER I WITH GRAVE
    1 LATIN SMALL LETTER I WITH ACUTE
    1 LATIN SMALL LETTER I WITH CIRCUMFLEX
    1 LATIN SMALL LETTER I WITH DIAERESIS
    1 LATIN SMALL LETTER ETH
    1 LATIN SMALL LETTER N WITH TILDE
    1 LATIN SMALL LETTER O WITH GRAVE
    1 LATIN SMALL LETTER O WITH ACUTE
    1 LATIN SMALL LETTER O WITH CIRCUMFLEX
    1 LATIN SMALL LETTER O WITH TILDE
    1 LATIN SMALL LETTER O WITH DIAERESIS
    1 DIVISION SIGN
    1 LATIN SMALL LETTER O WITH STROKE
    1 LATIN SMALL LETTER U WITH GRAVE
    1 LATIN SMALL LETTER U WITH ACUTE
    1 LATIN SMALL LETTER U WITH CIRCUMFLEX
    1 LATIN SMALL LETTER U WITH DIAERESIS
    1 LATIN SMALL LETTER Y WITH ACUTE
    1 LATIN SMALL LETTER THORN
    1 LATIN SMALL LETTER Y WITH DIAERESIS
    1 LATIN CAPITAL LETTER A WITH MACRON
    1 LATIN SMALL LETTER A WITH MACRON
    1 LATIN CAPITAL LETTER A WITH BREVE
    1 LATIN SMALL LETTER A WITH BREVE
    1 LATIN CAPITAL LETTER A WITH OGONEK
    1 LATIN SMALL LETTER A WITH OGONEK
    1 LATIN CAPITAL LETTER C WITH ACUTE
    1 LATIN SMALL LETTER C WITH ACUTE
    1 LATIN CAPITAL LETTER C WITH CIRCUMFLEX
    1 LATIN SMALL LETTER C WITH CIRCUMFLEX
    1 LATIN CAPITAL LETTER C WITH DOT ABOVE
    1 LATIN SMALL LETTER C WITH DOT ABOVE
    1 LATIN CAPITAL LETTER C WITH CARON
    1 LATIN SMALL LETTER C WITH CARON
    1 LATIN CAPITAL LETTER D WITH CARON
    1 LATIN SMALL LETTER D WITH CARON
    1 LATIN CAPITAL LETTER D WITH STROKE
    1 LATIN SMALL LETTER D WITH STROKE
    1 LATIN CAPITAL LETTER E WITH MACRON
    1 LATIN SMALL LETTER E WITH MACRON
    1 LATIN CAPITAL LETTER E WITH BREVE
    1 LATIN SMALL LETTER E WITH BREVE
    1 LATIN CAPITAL LETTER E WITH DOT ABOVE
    1 LATIN SMALL LETTER E WITH DOT ABOVE
    1 LATIN CAPITAL LETTER E WITH OGONEK
    1 LATIN SMALL LETTER E WITH OGONEK
    1 LATIN CAPITAL LETTER E WITH CARON
    1 LATIN SMALL LETTER E WITH CARON
    1 LATIN CAPITAL LETTER G WITH CIRCUMFLEX
    1 LATIN SMALL LETTER G WITH CIRCUMFLEX
    1 LATIN CAPITAL LETTER G WITH BREVE
    1 LATIN SMALL LETTER G WITH BREVE
    1 LATIN CAPITAL LETTER G WITH DOT ABOVE
    1 LATIN SMALL LETTER G WITH DOT ABOVE
    1 LATIN CAPITAL LETTER G WITH CEDILLA
    1 LATIN SMALL LETTER G WITH CEDILLA
    1 LATIN CAPITAL LETTER H WITH CIRCUMFLEX
    1 LATIN SMALL LETTER H WITH CIRCUMFLEX
    1 LATIN CAPITAL LETTER H WITH STROKE
    1 LATIN SMALL LETTER H WITH STROKE
    1 LATIN CAPITAL LETTER I WITH TILDE
    1 LATIN SMALL LETTER I WITH TILDE
    1 LATIN CAPITAL LETTER I WITH MACRON
    1 LATIN SMALL LETTER I WITH MACRON
    1 LATIN CAPITAL LETTER I WITH BREVE
    1 LATIN SMALL LETTER I WITH BREVE
    1 LATIN CAPITAL LETTER I WITH OGONEK
    1 LATIN SMALL LETTER I WITH OGONEK
    1 LATIN CAPITAL LETTER I WITH DOT ABOVE
    1 LATIN SMALL LETTER DOTLESS I
    1 LATIN CAPITAL LIGATURE IJ
    1 LATIN SMALL LIGATURE IJ
    1 LATIN CAPITAL LETTER J WITH CIRCUMFLEX
    1 LATIN SMALL LETTER J WITH CIRCUMFLEX
    1 LATIN CAPITAL LETTER K WITH CEDILLA
    1 LATIN SMALL LETTER K WITH CEDILLA
    1 LATIN SMALL LETTER KRA
    1 LATIN CAPITAL LETTER L WITH ACUTE
    1 LATIN SMALL LETTER L WITH ACUTE
    1 LATIN CAPITAL LETTER L WITH CEDILLA
    1 LATIN SMALL LETTER L WITH CEDILLA
    1 LATIN CAPITAL LETTER L WITH CARON
    1 LATIN SMALL LETTER L WITH CARON
    1 LATIN CAPITAL LETTER L WITH MIDDLE DOT
    1 LATIN SMALL LETTER L WITH MIDDLE DOT
    1 LATIN CAPITAL LETTER L WITH STROKE
    1 LATIN SMALL LETTER L WITH STROKE
    1 LATIN CAPITAL LETTER N WITH ACUTE
    1 LATIN SMALL LETTER N WITH ACUTE
    1 LATIN CAPITAL LETTER N WITH CEDILLA
    1 LATIN SMALL LETTER N WITH CEDILLA
    1 LATIN CAPITAL LETTER N WITH CARON
    1 LATIN SMALL LETTER N WITH CARON
    1 LATIN SMALL LETTER N PRECEDED BY APOSTROPHE
    1 LATIN CAPITAL LETTER ENG
    1 LATIN SMALL LETTER ENG
    1 LATIN CAPITAL LETTER O WITH MACRON
    1 LATIN SMALL LETTER O WITH MACRON
    1 LATIN CAPITAL LETTER O WITH BREVE
    1 LATIN SMALL LETTER O WITH BREVE
    1 LATIN CAPITAL LETTER O WITH DOUBLE ACUTE
    1 LATIN SMALL LETTER O WITH DOUBLE ACUTE
    1 LATIN CAPITAL LIGATURE OE
    1 LATIN SMALL LIGATURE OE
    1 LATIN CAPITAL LETTER R WITH ACUTE
    1 LATIN SMALL LETTER R WITH ACUTE
    1 LATIN CAPITAL LETTER R WITH CEDILLA
    1 LATIN SMALL LETTER R WITH CEDILLA
    1 LATIN CAPITAL LETTER R WITH CARON
    1 LATIN SMALL LETTER R WITH CARON
    1 LATIN CAPITAL LETTER S WITH ACUTE
    1 LATIN SMALL LETTER S WITH ACUTE
    1 LATIN CAPITAL LETTER S WITH CIRCUMFLEX
    1 LATIN SMALL LETTER S WITH CIRCUMFLEX
    1 LATIN CAPITAL LETTER S WITH CEDILLA
    1 LATIN SMALL LETTER S WITH CEDILLA
    1 LATIN CAPITAL LETTER S WITH CARON
    1 LATIN SMALL LETTER S WITH CARON
    1 LATIN CAPITAL LETTER T WITH CEDILLA
    1 LATIN SMALL LETTER T WITH CEDILLA
    1 LATIN CAPITAL LETTER T WITH CARON
    1 LATIN SMALL LETTER T WITH CARON
    1 LATIN CAPITAL LETTER T WITH STROKE
    1 LATIN SMALL LETTER T WITH STROKE
    1 LATIN CAPITAL LETTER U WITH TILDE
    1 LATIN SMALL LETTER U WITH TILDE
    1 LATIN CAPITAL LETTER U WITH MACRON
    1 LATIN SMALL LETTER U WITH MACRON
    1 LATIN CAPITAL LETTER U WITH BREVE
    1 LATIN SMALL LETTER U WITH BREVE
    1 LATIN CAPITAL LETTER U WITH RING ABOVE
    1 LATIN SMALL LETTER U WITH RING ABOVE
    1 LATIN CAPITAL LETTER U WITH DOUBLE ACUTE
    1 LATIN SMALL LETTER U WITH DOUBLE ACUTE
    1 LATIN CAPITAL LETTER U WITH OGONEK
    1 LATIN SMALL LETTER U WITH OGONEK
    1 LATIN CAPITAL LETTER W WITH CIRCUMFLEX
    1 LATIN SMALL LETTER W WITH CIRCUMFLEX
    1 LATIN CAPITAL LETTER Y WITH CIRCUMFLEX
    1 LATIN SMALL LETTER Y WITH CIRCUMFLEX
    1 LATIN CAPITAL LETTER Y WITH DIAERESIS
    1 LATIN CAPITAL LETTER Z WITH ACUTE
    1 LATIN SMALL LETTER Z WITH ACUTE
    1 LATIN CAPITAL LETTER Z WITH DOT ABOVE
    1 LATIN SMALL LETTER Z WITH DOT ABOVE
    1 LATIN CAPITAL LETTER Z WITH CARON
    1 LATIN SMALL LETTER Z WITH CARON
    1 LATIN SMALL LETTER LONG S
    1 LATIN SMALL LETTER B WITH STROKE
    1 LATIN CAPITAL LETTER B WITH HOOK
    1 LATIN CAPITAL LETTER B WITH TOPBAR
    1 LATIN SMALL LETTER B WITH TOPBAR
    1 LATIN CAPITAL LETTER TONE SIX
    1 LATIN SMALL LETTER TONE SIX
    1 LATIN CAPITAL LETTER OPEN O
    1 LATIN CAPITAL LETTER C WITH HOOK
    1 LATIN SMALL LETTER C WITH HOOK
    1 LATIN CAPITAL LETTER AFRICAN D
    1 LATIN CAPITAL LETTER D WITH HOOK
    1 LATIN CAPITAL LETTER D WITH TOPBAR
    1 LATIN SMALL LETTER D WITH TOPBAR
    1 LATIN SMALL LETTER TURNED DELTA
    1 LATIN CAPITAL LETTER REVERSED E
    1 LATIN CAPITAL LETTER SCHWA
    1 LATIN CAPITAL LETTER OPEN E
    1 LATIN CAPITAL LETTER F WITH HOOK
    1 LATIN SMALL LETTER F WITH HOOK
    1 LATIN CAPITAL LETTER G WITH HOOK
    1 LATIN CAPITAL LETTER GAMMA
    1 LATIN SMALL LETTER HV
    1 LATIN CAPITAL LETTER IOTA
    1 LATIN CAPITAL LETTER I WITH STROKE
    1 LATIN CAPITAL LETTER K WITH HOOK
    1 LATIN SMALL LETTER K WITH HOOK
    1 LATIN SMALL LETTER L WITH BAR
    1 LATIN SMALL LETTER LAMBDA WITH STROKE
    1 LATIN CAPITAL LETTER TURNED M
    1 LATIN CAPITAL LETTER N WITH LEFT HOOK
    1 LATIN SMALL LETTER N WITH LONG RIGHT LEG
    1 LATIN CAPITAL LETTER O WITH MIDDLE TILDE
    1 LATIN CAPITAL LETTER O WITH HORN
    1 LATIN SMALL LETTER O WITH HORN
    1 LATIN CAPITAL LETTER OI
    1 LATIN SMALL LETTER OI
    1 LATIN CAPITAL LETTER P WITH HOOK
    1 LATIN SMALL LETTER P WITH HOOK
    1 LATIN LETTER YR
    1 LATIN CAPITAL LETTER TONE TWO
    1 LATIN SMALL LETTER TONE TWO
    1 LATIN CAPITAL LETTER ESH
    1 LATIN LETTER REVERSED ESH LOOP
    1 LATIN SMALL LETTER T WITH PALATAL HOOK
    1 LATIN CAPITAL LETTER T WITH HOOK
    1 LATIN SMALL LETTER T WITH HOOK
    1 LATIN CAPITAL LETTER T WITH RETROFLEX HOOK
    1 LATIN CAPITAL LETTER U WITH HORN
    1 LATIN SMALL LETTER U WITH HORN
    1 LATIN CAPITAL LETTER UPSILON
    1 LATIN CAPITAL LETTER V WITH HOOK
    1 LATIN CAPITAL LETTER Y WITH HOOK
    1 LATIN SMALL LETTER Y WITH HOOK
    1 LATIN CAPITAL LETTER Z WITH STROKE
    1 LATIN SMALL LETTER Z WITH STROKE
    1 LATIN CAPITAL LETTER EZH
    1 LATIN CAPITAL LETTER EZH REVERSED
    1 LATIN SMALL LETTER EZH REVERSED
    1 LATIN SMALL LETTER EZH WITH TAIL
    1 LATIN LETTER TWO WITH STROKE
    1 LATIN CAPITAL LETTER TONE FIVE
    1 LATIN SMALL LETTER TONE FIVE
    1 LATIN LETTER INVERTED GLOTTAL STOP WITH STROKE
    1 LATIN LETTER WYNN
    1 LATIN LETTER DENTAL CLICK
    1 LATIN LETTER LATERAL CLICK
    1 LATIN LETTER ALVEOLAR CLICK
    1 LATIN LETTER RETROFLEX CLICK
    1 LATIN CAPITAL LETTER DZ WITH CARON
    1 LATIN CAPITAL LETTER D WITH SMALL LETTER Z WITH CARON
    1 LATIN SMALL LETTER DZ WITH CARON
    1 LATIN CAPITAL LETTER LJ
    1 LATIN CAPITAL LETTER L WITH SMALL LETTER J
    1 LATIN SMALL LETTER LJ
    1 LATIN CAPITAL LETTER NJ
    1 LATIN CAPITAL LETTER N WITH SMALL LETTER J
    1 LATIN SMALL LETTER NJ
    1 LATIN CAPITAL LETTER A WITH CARON
    1 LATIN SMALL LETTER A WITH CARON
    1 LATIN CAPITAL LETTER I WITH CARON
    1 LATIN SMALL LETTER I WITH CARON
    1 LATIN CAPITAL LETTER O WITH CARON
    1 LATIN SMALL LETTER O WITH CARON
    1 LATIN CAPITAL LETTER U WITH CARON
    1 LATIN SMALL LETTER U WITH CARON
    1 LATIN CAPITAL LETTER U WITH DIAERESIS AND MACRON
    1 LATIN SMALL LETTER U WITH DIAERESIS AND MACRON
    1 LATIN CAPITAL LETTER U WITH DIAERESIS AND ACUTE
    1 LATIN SMALL LETTER U WITH DIAERESIS AND ACUTE
    1 LATIN CAPITAL LETTER U WITH DIAERESIS AND CARON
    1 LATIN SMALL LETTER U WITH DIAERESIS AND CARON
    1 LATIN CAPITAL LETTER U WITH DIAERESIS AND GRAVE
    1 LATIN SMALL LETTER U WITH DIAERESIS AND GRAVE
    1 LATIN SMALL LETTER TURNED E
    1 LATIN CAPITAL LETTER A WITH DIAERESIS AND MACRON
    1 LATIN SMALL LETTER A WITH DIAERESIS AND MACRON
    1 LATIN CAPITAL LETTER A WITH DOT ABOVE AND MACRON
    1 LATIN SMALL LETTER A WITH DOT ABOVE AND MACRON
    1 LATIN CAPITAL LETTER AE WITH MACRON
    1 LATIN SMALL LETTER AE WITH MACRON
    1 LATIN CAPITAL LETTER G WITH STROKE
    1 LATIN SMALL LETTER G WITH STROKE
    1 LATIN CAPITAL LETTER G WITH CARON
    1 LATIN SMALL LETTER G WITH CARON
    1 LATIN CAPITAL LETTER K WITH CARON
    1 LATIN SMALL LETTER K WITH CARON
    1 LATIN CAPITAL LETTER O WITH OGONEK
    1 LATIN SMALL LETTER O WITH OGONEK
    1 LATIN CAPITAL LETTER O WITH OGONEK AND MACRON
    1 LATIN SMALL LETTER O WITH OGONEK AND MACRON
    1 LATIN CAPITAL LETTER EZH WITH CARON
    1 LATIN SMALL LETTER EZH WITH CARON
    1 LATIN SMALL LETTER J WITH CARON
    1 LATIN CAPITAL LETTER DZ
    1 LATIN CAPITAL LETTER D WITH SMALL LETTER Z
    1 LATIN SMALL LETTER DZ
    1 LATIN CAPITAL LETTER G WITH ACUTE
    1 LATIN SMALL LETTER G WITH ACUTE
    1 LATIN CAPITAL LETTER HWAIR
    1 LATIN CAPITAL LETTER WYNN
    1 LATIN CAPITAL LETTER N WITH GRAVE
    1 LATIN SMALL LETTER N WITH GRAVE
    1 LATIN CAPITAL LETTER A WITH RING ABOVE AND ACUTE
    1 LATIN SMALL LETTER A WITH RING ABOVE AND ACUTE
    1 LATIN CAPITAL LETTER AE WITH ACUTE
    1 LATIN SMALL LETTER AE WITH ACUTE
    1 LATIN CAPITAL LETTER O WITH STROKE AND ACUTE
    1 LATIN SMALL LETTER O WITH STROKE AND ACUTE
    1 LATIN CAPITAL LETTER A WITH DOUBLE GRAVE
    1 LATIN SMALL LETTER A WITH DOUBLE GRAVE
    1 LATIN CAPITAL LETTER A WITH INVERTED BREVE
    1 LATIN SMALL LETTER A WITH INVERTED BREVE
    1 LATIN CAPITAL LETTER E WITH DOUBLE GRAVE
    1 LATIN SMALL LETTER E WITH DOUBLE GRAVE
    1 LATIN CAPITAL LETTER E WITH INVERTED BREVE
    1 LATIN SMALL LETTER E WITH INVERTED BREVE
    1 LATIN CAPITAL LETTER I WITH DOUBLE GRAVE
    1 LATIN SMALL LETTER I WITH DOUBLE GRAVE
    1 LATIN CAPITAL LETTER I WITH INVERTED BREVE
    1 LATIN SMALL LETTER I WITH INVERTED BREVE
    1 LATIN CAPITAL LETTER O WITH DOUBLE GRAVE
    1 LATIN SMALL LETTER O WITH DOUBLE GRAVE
    1 LATIN CAPITAL LETTER O WITH INVERTED BREVE
    1 LATIN SMALL LETTER O WITH INVERTED BREVE
    1 LATIN CAPITAL LETTER R WITH DOUBLE GRAVE
    1 LATIN SMALL LETTER R WITH DOUBLE GRAVE
    1 LATIN CAPITAL LETTER R WITH INVERTED BREVE
    1 LATIN SMALL LETTER R WITH INVERTED BREVE
    1 LATIN CAPITAL LETTER U WITH DOUBLE GRAVE
    1 LATIN SMALL LETTER U WITH DOUBLE GRAVE
    1 LATIN CAPITAL LETTER U WITH INVERTED BREVE
    1 LATIN SMALL LETTER U WITH INVERTED BREVE
    1 LATIN CAPITAL LETTER S WITH COMMA BELOW
    1 LATIN SMALL LETTER S WITH COMMA BELOW
    1 LATIN CAPITAL LETTER T WITH COMMA BELOW
    1 LATIN SMALL LETTER T WITH COMMA BELOW
    1 LATIN CAPITAL LETTER YOGH
    1 LATIN SMALL LETTER YOGH
    1 LATIN CAPITAL LETTER H WITH CARON
    1 LATIN SMALL LETTER H WITH CARON
    1 LATIN CAPITAL LETTER N WITH LONG RIGHT LEG
    1 LATIN SMALL LETTER D WITH CURL
    1 LATIN CAPITAL LETTER OU
    1 LATIN SMALL LETTER OU
    1 LATIN CAPITAL LETTER Z WITH HOOK
    1 LATIN SMALL LETTER Z WITH HOOK
    1 LATIN CAPITAL LETTER A WITH DOT ABOVE
    1 LATIN SMALL LETTER A WITH DOT ABOVE
    1 LATIN CAPITAL LETTER E WITH CEDILLA
    1 LATIN SMALL LETTER E WITH CEDILLA
    1 LATIN CAPITAL LETTER O WITH DIAERESIS AND MACRON
    1 LATIN SMALL LETTER O WITH DIAERESIS AND MACRON
    1 LATIN CAPITAL LETTER O WITH TILDE AND MACRON
    1 LATIN SMALL LETTER O WITH TILDE AND MACRON
    1 LATIN CAPITAL LETTER O WITH DOT ABOVE
    1 LATIN SMALL LETTER O WITH DOT ABOVE
    1 LATIN CAPITAL LETTER O WITH DOT ABOVE AND MACRON
    1 LATIN SMALL LETTER O WITH DOT ABOVE AND MACRON
    1 LATIN CAPITAL LETTER Y WITH MACRON
    1 LATIN SMALL LETTER Y WITH MACRON
    1 LATIN SMALL LETTER L WITH CURL
    1 LATIN SMALL LETTER N WITH CURL
    1 LATIN SMALL LETTER T WITH CURL
    1 LATIN SMALL LETTER DOTLESS J
    1 LATIN SMALL LETTER DB DIGRAPH
    1 LATIN SMALL LETTER QP DIGRAPH
    1 LATIN CAPITAL LETTER A WITH STROKE
    1 LATIN CAPITAL LETTER C WITH STROKE
    1 LATIN SMALL LETTER C WITH STROKE
    1 LATIN CAPITAL LETTER L WITH BAR
    1 LATIN CAPITAL LETTER T WITH DIAGONAL STROKE
    1 LATIN SMALL LETTER S WITH SWASH TAIL
    1 LATIN SMALL LETTER Z WITH SWASH TAIL
    1 LATIN CAPITAL LETTER GLOTTAL STOP
    1 LATIN SMALL LETTER GLOTTAL STOP
    1 LATIN CAPITAL LETTER B WITH STROKE
    1 LATIN CAPITAL LETTER U BAR
    1 LATIN CAPITAL LETTER TURNED V
    1 LATIN CAPITAL LETTER E WITH STROKE
    1 LATIN SMALL LETTER E WITH STROKE
    1 LATIN CAPITAL LETTER J WITH STROKE
    1 LATIN SMALL LETTER J WITH STROKE
    1 LATIN CAPITAL LETTER SMALL Q WITH HOOK TAIL
    1 LATIN SMALL LETTER Q WITH HOOK TAIL
    1 LATIN CAPITAL LETTER R WITH STROKE
    1 LATIN SMALL LETTER R WITH STROKE
    1 LATIN CAPITAL LETTER Y WITH STROKE
    1 LATIN SMALL LETTER Y WITH STROKE
    61 MODIFIER LETTER SMALL H
    1 MODIFIER LETTER SMALL H WITH HOOK
    1 MODIFIER LETTER SMALL J
    1 MODIFIER LETTER SMALL R
    1 MODIFIER LETTER SMALL TURNED R
    1 MODIFIER LETTER SMALL TURNED R WITH HOOK
    1 MODIFIER LETTER SMALL CAPITAL INVERTED R
    1 MODIFIER LETTER SMALL W
    1 MODIFIER LETTER SMALL Y
    1 MODIFIER LETTER PRIME
    1 MODIFIER LETTER DOUBLE PRIME
    1 MODIFIER LETTER TURNED COMMA
    1 MODIFIER LETTER APOSTROPHE
    1 MODIFIER LETTER REVERSED COMMA
    1 MODIFIER LETTER RIGHT HALF RING
    1 MODIFIER LETTER LEFT HALF RING
    1 MODIFIER LETTER GLOTTAL STOP
    1 MODIFIER LETTER REVERSED GLOTTAL STOP
    1 MODIFIER LETTER LEFT ARROWHEAD
    1 MODIFIER LETTER RIGHT ARROWHEAD
    1 MODIFIER LETTER UP ARROWHEAD
    1 MODIFIER LETTER DOWN ARROWHEAD
    1 MODIFIER LETTER CIRCUMFLEX ACCENT
    1 CARON
    1 MODIFIER LETTER VERTICAL LINE
    1 MODIFIER LETTER MACRON
    1 MODIFIER LETTER ACUTE ACCENT
    1 MODIFIER LETTER GRAVE ACCENT
    1 MODIFIER LETTER LOW VERTICAL LINE
    1 MODIFIER LETTER LOW MACRON
    1 MODIFIER LETTER LOW GRAVE ACCENT
    1 MODIFIER LETTER LOW ACUTE ACCENT
    1 MODIFIER LETTER TRIANGULAR COLON
    1 MODIFIER LETTER HALF TRIANGULAR COLON
    1 MODIFIER LETTER CENTRED RIGHT HALF RING
    1 MODIFIER LETTER CENTRED LEFT HALF RING
    1 MODIFIER LETTER UP TACK
    1 MODIFIER LETTER DOWN TACK
    1 MODIFIER LETTER PLUS SIGN
    1 MODIFIER LETTER MINUS SIGN
    1 BREVE
    1 DOT ABOVE
    1 RING ABOVE
    1 OGONEK
    1 SMALL TILDE
    1 DOUBLE ACUTE ACCENT
    1 MODIFIER LETTER RHOTIC HOOK
    1 MODIFIER LETTER CROSS ACCENT
    1 MODIFIER LETTER SMALL GAMMA
    1 MODIFIER LETTER SMALL L
    1 MODIFIER LETTER SMALL S
    1 MODIFIER LETTER SMALL X
    1 MODIFIER LETTER SMALL REVERSED GLOTTAL STOP
    1 MODIFIER LETTER EXTRA-HIGH TONE BAR
    1 MODIFIER LETTER HIGH TONE BAR
    1 MODIFIER LETTER MID TONE BAR
    1 MODIFIER LETTER LOW TONE BAR
    1 MODIFIER LETTER EXTRA-LOW TONE BAR
    1 MODIFIER LETTER YIN DEPARTING TONE MARK
    1 MODIFIER LETTER YANG DEPARTING TONE MARK
    1 MODIFIER LETTER VOICING
    1 MODIFIER LETTER UNASPIRATED
    1 MODIFIER LETTER DOUBLE APOSTROPHE
    1 MODIFIER LETTER LOW DOWN ARROWHEAD
    1 MODIFIER LETTER LOW UP ARROWHEAD
    1 MODIFIER LETTER LOW LEFT ARROWHEAD
    1 MODIFIER LETTER LOW RIGHT ARROWHEAD
    1 MODIFIER LETTER LOW RING
    1 MODIFIER LETTER MIDDLE GRAVE ACCENT
    1 MODIFIER LETTER MIDDLE DOUBLE GRAVE ACCENT
    1 MODIFIER LETTER MIDDLE DOUBLE ACUTE ACCENT
    1 MODIFIER LETTER LOW TILDE
    1 MODIFIER LETTER RAISED COLON
    1 MODIFIER LETTER BEGIN HIGH TONE
    1 MODIFIER LETTER END HIGH TONE
    1 MODIFIER LETTER BEGIN LOW TONE
    1 MODIFIER LETTER END LOW TONE
    1 MODIFIER LETTER SHELF
    1 MODIFIER LETTER OPEN SHELF
    1 MODIFIER LETTER LOW LEFT ARROW
    1 COMBINING GRAVE ACCENT
    1 COMBINING ACUTE ACCENT
    1 COMBINING CIRCUMFLEX ACCENT
    1 COMBINING TILDE
    1 COMBINING MACRON
    1 COMBINING OVERLINE
    1 COMBINING BREVE
    1 COMBINING DOT ABOVE
    1 COMBINING DIAERESIS
    1 COMBINING HOOK ABOVE
    1 COMBINING RING ABOVE
    1 COMBINING DOUBLE ACUTE ACCENT
    1 COMBINING CARON
    1 COMBINING VERTICAL LINE ABOVE
    1 COMBINING DOUBLE VERTICAL LINE ABOVE
    1 COMBINING DOUBLE GRAVE ACCENT
    1 COMBINING CANDRABINDU
    1 COMBINING INVERTED BREVE
    1 COMBINING TURNED COMMA ABOVE
    1 COMBINING COMMA ABOVE
    1 COMBINING REVERSED COMMA ABOVE
    1 COMBINING COMMA ABOVE RIGHT
    1 COMBINING GRAVE ACCENT BELOW
    1 COMBINING ACUTE ACCENT BELOW
    1 COMBINING LEFT TACK BELOW
    1 COMBINING RIGHT TACK BELOW
    1 COMBINING LEFT ANGLE ABOVE
    1 COMBINING HORN
    1 COMBINING LEFT HALF RING BELOW
    1 COMBINING UP TACK BELOW
    1 COMBINING DOWN TACK BELOW
    1 COMBINING PLUS SIGN BELOW
    1 COMBINING MINUS SIGN BELOW
    1 COMBINING PALATALIZED HOOK BELOW
    1 COMBINING RETROFLEX HOOK BELOW
    1 COMBINING DOT BELOW
    1 COMBINING DIAERESIS BELOW
    1 COMBINING RING BELOW
    1 COMBINING COMMA BELOW
    1 COMBINING CEDILLA
    1 COMBINING OGONEK
    1 COMBINING VERTICAL LINE BELOW
    1 COMBINING BRIDGE BELOW
    1 COMBINING INVERTED DOUBLE ARCH BELOW
    1 COMBINING CARON BELOW
    1 COMBINING CIRCUMFLEX ACCENT BELOW
    1 COMBINING BREVE BELOW
    1 COMBINING INVERTED BREVE BELOW
    1 COMBINING TILDE BELOW
    1 COMBINING MACRON BELOW
    1 COMBINING LOW LINE
    1 COMBINING DOUBLE LOW LINE
    1 COMBINING TILDE OVERLAY
    1 COMBINING SHORT STROKE OVERLAY
    1 COMBINING LONG STROKE OVERLAY
    1 COMBINING SHORT SOLIDUS OVERLAY
    1 COMBINING LONG SOLIDUS OVERLAY
    1 COMBINING RIGHT HALF RING BELOW
    1 COMBINING INVERTED BRIDGE BELOW
    1 COMBINING SQUARE BELOW
    1 COMBINING SEAGULL BELOW
    1 COMBINING X ABOVE
    1 COMBINING VERTICAL TILDE
    1 COMBINING DOUBLE OVERLINE
    1 COMBINING GRAVE TONE MARK
    1 COMBINING ACUTE TONE MARK
    1 COMBINING GREEK PERISPOMENI
    1 COMBINING GREEK KORONIS
    1 COMBINING GREEK DIALYTIKA TONOS
    1 COMBINING GREEK YPOGEGRAMMENI
    1 COMBINING BRIDGE ABOVE
    1 COMBINING EQUALS SIGN BELOW
    1 COMBINING DOUBLE VERTICAL LINE BELOW
    1 COMBINING LEFT ANGLE BELOW
    1 COMBINING NOT TILDE ABOVE
    1 COMBINING HOMOTHETIC ABOVE
    1 COMBINING ALMOST EQUAL TO ABOVE
    1 COMBINING LEFT RIGHT ARROW BELOW
    1 COMBINING UPWARDS ARROW BELOW
    1 COMBINING GRAPHEME JOINER
    1 COMBINING RIGHT ARROWHEAD ABOVE
    1 COMBINING LEFT HALF RING ABOVE
    1 COMBINING FERMATA
    1 COMBINING X BELOW
    1 COMBINING LEFT ARROWHEAD BELOW
    1 COMBINING RIGHT ARROWHEAD BELOW
    1 COMBINING RIGHT ARROWHEAD AND UP ARROWHEAD BELOW
    1 COMBINING RIGHT HALF RING ABOVE
    1 COMBINING DOT ABOVE RIGHT
    1 COMBINING ASTERISK BELOW
    1 COMBINING DOUBLE RING BELOW
    1 COMBINING ZIGZAG ABOVE
    1 COMBINING DOUBLE BREVE BELOW
    1 COMBINING DOUBLE BREVE
    1 COMBINING DOUBLE MACRON
    1 COMBINING DOUBLE MACRON BELOW
    1 COMBINING DOUBLE TILDE
    1 COMBINING DOUBLE INVERTED BREVE
    1 COMBINING DOUBLE RIGHTWARDS ARROW BELOW
    1 COMBINING LATIN SMALL LETTER A
    1 COMBINING LATIN SMALL LETTER E
    1 COMBINING LATIN SMALL LETTER I
    1 COMBINING LATIN SMALL LETTER O
    1 COMBINING LATIN SMALL LETTER U
    1 COMBINING LATIN SMALL LETTER C
    1 COMBINING LATIN SMALL LETTER D
    1 COMBINING LATIN SMALL LETTER H
    1 COMBINING LATIN SMALL LETTER M
    1 COMBINING LATIN SMALL LETTER R
    1 COMBINING LATIN SMALL LETTER T
    1 COMBINING LATIN SMALL LETTER V
    1 COMBINING LATIN SMALL LETTER X
    1 GREEK CAPITAL LETTER HETA
    1 GREEK SMALL LETTER HETA
    1 GREEK CAPITAL LETTER ARCHAIC SAMPI
    1 GREEK SMALL LETTER ARCHAIC SAMPI
    1 GREEK NUMERAL SIGN
    1 GREEK LOWER NUMERAL SIGN
    1 GREEK CAPITAL LETTER PAMPHYLIAN DIGAMMA
    1 GREEK SMALL LETTER PAMPHYLIAN DIGAMMA
    3 GREEK YPOGEGRAMMENI
    1 GREEK SMALL REVERSED LUNATE SIGMA SYMBOL
    1 GREEK SMALL DOTTED LUNATE SIGMA SYMBOL
    1 GREEK SMALL REVERSED DOTTED LUNATE SIGMA SYMBOL
    1 GREEK QUESTION MARK
    1 GREEK CAPITAL LETTER YOT
    5 GREEK TONOS
    1 GREEK DIALYTIKA TONOS
    1 GREEK CAPITAL LETTER ALPHA WITH TONOS
    1 GREEK ANO TELEIA
    1 GREEK CAPITAL LETTER EPSILON WITH TONOS
    1 GREEK CAPITAL LETTER ETA WITH TONOS
    1 GREEK CAPITAL LETTER IOTA WITH TONOS
    2 GREEK CAPITAL LETTER OMICRON WITH TONOS
    2 GREEK CAPITAL LETTER UPSILON WITH TONOS
    1 GREEK CAPITAL LETTER OMEGA WITH TONOS
    1 GREEK SMALL LETTER IOTA WITH DIALYTIKA AND TONOS
    1 GREEK CAPITAL LETTER ALPHA
    1 GREEK CAPITAL LETTER BETA
    1 GREEK CAPITAL LETTER GAMMA
    1 GREEK CAPITAL LETTER DELTA
    1 GREEK CAPITAL LETTER EPSILON
    1 GREEK CAPITAL LETTER ZETA
    1 GREEK CAPITAL LETTER ETA
    1 GREEK CAPITAL LETTER THETA
    1 GREEK CAPITAL LETTER IOTA
    1 GREEK CAPITAL LETTER KAPPA
    1 GREEK CAPITAL LETTER LAMDA
    1 GREEK CAPITAL LETTER MU
    1 GREEK CAPITAL LETTER NU
    1 GREEK CAPITAL LETTER XI
    1 GREEK CAPITAL LETTER OMICRON
    1 GREEK CAPITAL LETTER PI
    1 GREEK CAPITAL LETTER RHO
    2 GREEK CAPITAL LETTER SIGMA
    1 GREEK CAPITAL LETTER TAU
    1 GREEK CAPITAL LETTER UPSILON
    1 GREEK CAPITAL LETTER PHI
    1 GREEK CAPITAL LETTER CHI
    1 GREEK CAPITAL LETTER PSI
    1 GREEK CAPITAL LETTER OMEGA
    1 GREEK CAPITAL LETTER IOTA WITH DIALYTIKA
    1 GREEK CAPITAL LETTER UPSILON WITH DIALYTIKA
    1 GREEK SMALL LETTER ALPHA WITH TONOS
    1 GREEK SMALL LETTER EPSILON WITH TONOS
    1 GREEK SMALL LETTER ETA WITH TONOS
    1 GREEK SMALL LETTER IOTA WITH TONOS
    1 GREEK SMALL LETTER UPSILON WITH DIALYTIKA AND TONOS
    1 GREEK SMALL LETTER ALPHA
    1 GREEK SMALL LETTER BETA
    1 GREEK SMALL LETTER GAMMA
    1 GREEK SMALL LETTER DELTA
    1 GREEK SMALL LETTER EPSILON
    1 GREEK SMALL LETTER ZETA
    1 GREEK SMALL LETTER ETA
    1 GREEK SMALL LETTER THETA
    1 GREEK SMALL LETTER IOTA
    1 GREEK SMALL LETTER KAPPA
    1 GREEK SMALL LETTER LAMDA
    1 GREEK SMALL LETTER MU
    1 GREEK SMALL LETTER NU
    1 GREEK SMALL LETTER XI
    1 GREEK SMALL LETTER OMICRON
    1 GREEK SMALL LETTER PI
    1 GREEK SMALL LETTER RHO
    1 GREEK SMALL LETTER FINAL SIGMA
    1 GREEK SMALL LETTER SIGMA
    1 GREEK SMALL LETTER TAU
    1 GREEK SMALL LETTER UPSILON
    1 GREEK SMALL LETTER PHI
    1 GREEK SMALL LETTER CHI
    1 GREEK SMALL LETTER PSI
    1 GREEK SMALL LETTER OMEGA
    1 GREEK SMALL LETTER IOTA WITH DIALYTIKA
    1 GREEK SMALL LETTER UPSILON WITH DIALYTIKA
    1 GREEK SMALL LETTER OMICRON WITH TONOS
    1 GREEK SMALL LETTER UPSILON WITH TONOS
    1 GREEK SMALL LETTER OMEGA WITH TONOS
    1 GREEK CAPITAL KAI SYMBOL
    1 GREEK BETA SYMBOL
    1 GREEK THETA SYMBOL
    1 GREEK UPSILON WITH HOOK SYMBOL
    1 GREEK UPSILON WITH ACUTE AND HOOK SYMBOL
    1 GREEK UPSILON WITH DIAERESIS AND HOOK SYMBOL
    1 GREEK PHI SYMBOL
    1 GREEK PI SYMBOL
    1 GREEK KAI SYMBOL
    1 GREEK LETTER ARCHAIC KOPPA
    1 GREEK SMALL LETTER ARCHAIC KOPPA
    1 GREEK LETTER STIGMA
    1 GREEK SMALL LETTER STIGMA
    1 GREEK LETTER DIGAMMA
    1 GREEK SMALL LETTER DIGAMMA
    1 GREEK LETTER KOPPA
    1 GREEK SMALL LETTER KOPPA
    1 GREEK LETTER SAMPI
    1 GREEK SMALL LETTER SAMPI
    1 COPTIC CAPITAL LETTER SHEI
    1 COPTIC SMALL LETTER SHEI
    1 COPTIC CAPITAL LETTER FEI
    1 COPTIC SMALL LETTER FEI
    1 COPTIC CAPITAL LETTER KHEI
    1 COPTIC SMALL LETTER KHEI
    1 COPTIC CAPITAL LETTER HORI
    1 COPTIC SMALL LETTER HORI
    1 COPTIC CAPITAL LETTER GANGIA
    1 COPTIC SMALL LETTER GANGIA
    1 COPTIC CAPITAL LETTER SHIMA
    1 COPTIC SMALL LETTER SHIMA
    1 COPTIC CAPITAL LETTER DEI
    1 COPTIC SMALL LETTER DEI
    1 GREEK KAPPA SYMBOL
    1 GREEK RHO SYMBOL
    1 GREEK LUNATE SIGMA SYMBOL
    1 GREEK LETTER YOT
    1 GREEK CAPITAL THETA SYMBOL
    1 GREEK LUNATE EPSILON SYMBOL
    1 GREEK REVERSED LUNATE EPSILON SYMBOL
    1 GREEK CAPITAL LETTER SHO
    1 GREEK SMALL LETTER SHO
    1 GREEK CAPITAL LUNATE SIGMA SYMBOL
    1 GREEK CAPITAL LETTER SAN
    1 GREEK SMALL LETTER SAN
    1 GREEK RHO WITH STROKE SYMBOL
    1 GREEK CAPITAL REVERSED LUNATE SIGMA SYMBOL
    1 GREEK CAPITAL DOTTED LUNATE SIGMA SYMBOL
    1 GREEK CAPITAL REVERSED DOTTED LUNATE SIGMA SYMBOL
    1 CYRILLIC CAPITAL LETTER IE WITH GRAVE
    1 CYRILLIC CAPITAL LETTER IO
    1 CYRILLIC CAPITAL LETTER DJE
    1 CYRILLIC CAPITAL LETTER GJE
    1 CYRILLIC CAPITAL LETTER UKRAINIAN IE
    1 CYRILLIC CAPITAL LETTER DZE
    1 CYRILLIC CAPITAL LETTER BYELORUSSIAN-UKRAINIAN I
    1 CYRILLIC CAPITAL LETTER YI
    1 CYRILLIC CAPITAL LETTER JE
    1 CYRILLIC CAPITAL LETTER LJE
    1 CYRILLIC CAPITAL LETTER NJE
    1 CYRILLIC CAPITAL LETTER TSHE
    1 CYRILLIC CAPITAL LETTER KJE
    1 CYRILLIC CAPITAL LETTER I WITH GRAVE
    1 CYRILLIC CAPITAL LETTER SHORT U
    1 CYRILLIC CAPITAL LETTER DZHE
    1 CYRILLIC CAPITAL LETTER A
    1 CYRILLIC CAPITAL LETTER BE
    1 CYRILLIC CAPITAL LETTER VE
    1 CYRILLIC CAPITAL LETTER GHE
    1 CYRILLIC CAPITAL LETTER DE
    1 CYRILLIC CAPITAL LETTER IE
    1 CYRILLIC CAPITAL LETTER ZHE
    1 CYRILLIC CAPITAL LETTER ZE
    1 CYRILLIC CAPITAL LETTER I
    1 CYRILLIC CAPITAL LETTER SHORT I
    1 CYRILLIC CAPITAL LETTER KA
    1 CYRILLIC CAPITAL LETTER EL
    1 CYRILLIC CAPITAL LETTER EM
    1 CYRILLIC CAPITAL LETTER EN
    1 CYRILLIC CAPITAL LETTER O
    1 CYRILLIC CAPITAL LETTER PE
    1 CYRILLIC CAPITAL LETTER ER
    1 CYRILLIC CAPITAL LETTER ES
    1 CYRILLIC CAPITAL LETTER TE
    1 CYRILLIC CAPITAL LETTER U
    1 CYRILLIC CAPITAL LETTER EF
    1 CYRILLIC CAPITAL LETTER HA
    1 CYRILLIC CAPITAL LETTER TSE
    1 CYRILLIC CAPITAL LETTER CHE
    1 CYRILLIC CAPITAL LETTER SHA
    1 CYRILLIC CAPITAL LETTER SHCHA
    1 CYRILLIC CAPITAL LETTER HARD SIGN
    1 CYRILLIC CAPITAL LETTER YERU
    1 CYRILLIC CAPITAL LETTER SOFT SIGN
    1 CYRILLIC CAPITAL LETTER E
    1 CYRILLIC CAPITAL LETTER YU
    1 CYRILLIC CAPITAL LETTER YA
    1 CYRILLIC SMALL LETTER A
    1 CYRILLIC SMALL LETTER BE
    1 CYRILLIC SMALL LETTER VE
    1 CYRILLIC SMALL LETTER GHE
    1 CYRILLIC SMALL LETTER DE
    1 CYRILLIC SMALL LETTER IE
    1 CYRILLIC SMALL LETTER ZHE
    1 CYRILLIC SMALL LETTER ZE
    1 CYRILLIC SMALL LETTER I
    1 CYRILLIC SMALL LETTER SHORT I
    1 CYRILLIC SMALL LETTER KA
    1 CYRILLIC SMALL LETTER EL
    1 CYRILLIC SMALL LETTER EM
    1 CYRILLIC SMALL LETTER EN
    1 CYRILLIC SMALL LETTER O
    1 CYRILLIC SMALL LETTER PE
    1 CYRILLIC SMALL LETTER ER
    1 CYRILLIC SMALL LETTER ES
    1 CYRILLIC SMALL LETTER TE
    1 CYRILLIC SMALL LETTER U
    1 CYRILLIC SMALL LETTER EF
    1 CYRILLIC SMALL LETTER HA
    1 CYRILLIC SMALL LETTER TSE
    1 CYRILLIC SMALL LETTER CHE
    1 CYRILLIC SMALL LETTER SHA
    1 CYRILLIC SMALL LETTER SHCHA
    1 CYRILLIC SMALL LETTER HARD SIGN
    1 CYRILLIC SMALL LETTER YERU
    1 CYRILLIC SMALL LETTER SOFT SIGN
    1 CYRILLIC SMALL LETTER E
    1 CYRILLIC SMALL LETTER YU
    1 CYRILLIC SMALL LETTER YA
    1 CYRILLIC SMALL LETTER IE WITH GRAVE
    1 CYRILLIC SMALL LETTER IO
    1 CYRILLIC SMALL LETTER DJE
    1 CYRILLIC SMALL LETTER GJE
    1 CYRILLIC SMALL LETTER UKRAINIAN IE
    1 CYRILLIC SMALL LETTER DZE
    1 CYRILLIC SMALL LETTER BYELORUSSIAN-UKRAINIAN I
    1 CYRILLIC SMALL LETTER YI
    1 CYRILLIC SMALL LETTER JE
    1 CYRILLIC SMALL LETTER LJE
    1 CYRILLIC SMALL LETTER NJE
    1 CYRILLIC SMALL LETTER TSHE
    1 CYRILLIC SMALL LETTER KJE
    1 CYRILLIC SMALL LETTER I WITH GRAVE
    1 CYRILLIC SMALL LETTER SHORT U
    1 CYRILLIC SMALL LETTER DZHE
    171 HEBREW LETTER ALEF
    1 HEBREW LETTER BET
    1 HEBREW LETTER GIMEL
    1 HEBREW LETTER DALET
    1 HEBREW LETTER HE
    1 HEBREW LETTER VAV
    1 HEBREW LETTER ZAYIN
    1 HEBREW LETTER HET
    1 HEBREW LETTER TET
    1 HEBREW LETTER YOD
    1 HEBREW LETTER FINAL KAF
    1 HEBREW LETTER KAF
    1 HEBREW LETTER LAMED
    1 HEBREW LETTER FINAL MEM
    1 HEBREW LETTER MEM
    1 HEBREW LETTER FINAL NUN
    1 HEBREW LETTER NUN
    1 HEBREW LETTER SAMEKH
    1 HEBREW LETTER AYIN
    1 HEBREW LETTER FINAL PE
    1 HEBREW LETTER PE
    1 HEBREW LETTER FINAL TSADI
    1 HEBREW LETTER TSADI
    1 HEBREW LETTER QOF
    1 HEBREW LETTER RESH
    1 HEBREW LETTER SHIN
    1 HEBREW LETTER TAV
    37 ARABIC LETTER HAMZA
    1 ARABIC LETTER ALEF WITH MADDA ABOVE
    1 ARABIC LETTER ALEF WITH HAMZA ABOVE
    1 ARABIC LETTER WAW WITH HAMZA ABOVE
    1 ARABIC LETTER ALEF WITH HAMZA BELOW
    1 ARABIC LETTER YEH WITH HAMZA ABOVE
    1 ARABIC LETTER ALEF
    1 ARABIC LETTER BEH
    1 ARABIC LETTER TEH MARBUTA
    1 ARABIC LETTER TEH
    1 ARABIC LETTER THEH
    1 ARABIC LETTER JEEM
    1 ARABIC LETTER HAH
    1 ARABIC LETTER KHAH
    1 ARABIC LETTER DAL
    1 ARABIC LETTER THAL
    1 ARABIC LETTER REH
    1 ARABIC LETTER ZAIN
    1 ARABIC LETTER SEEN
    1 ARABIC LETTER SHEEN
    1 ARABIC LETTER SAD
    1 ARABIC LETTER DAD
    1 ARABIC LETTER TAH
    1 ARABIC LETTER ZAH
    1 ARABIC LETTER AIN
    1 ARABIC LETTER GHAIN
    1 ARABIC LETTER KEHEH WITH TWO DOTS ABOVE
    1 ARABIC LETTER KEHEH WITH THREE DOTS BELOW
    1 ARABIC LETTER FARSI YEH WITH INVERTED V
    1 ARABIC LETTER FARSI YEH WITH TWO DOTS ABOVE
    1 ARABIC LETTER FARSI YEH WITH THREE DOTS ABOVE
    1 ARABIC TATWEEL
    1 ARABIC LETTER FEH
    1 ARABIC LETTER QAF
    1 ARABIC LETTER KAF
    1 ARABIC LETTER LAM
    1 ARABIC LETTER MEEM
    1 ARABIC LETTER NOON
    1 ARABIC LETTER HEH
    1 ARABIC LETTER WAW
    1 ARABIC LETTER ALEF MAKSURA
    1 ARABIC LETTER YEH
    19b6 EN QUAD
    1 EM QUAD
    1 EN SPACE
    1 EM SPACE
    1 THREE-PER-EM SPACE
    1 FOUR-PER-EM SPACE
    1 SIX-PER-EM SPACE
    1 FIGURE SPACE
    1 PUNCTUATION SPACE
    1 THIN SPACE
    1 HAIR SPACE
    1 ZERO WIDTH SPACE
    1 ZERO WIDTH NON-JOINER
    1 ZERO WIDTH JOINER
    1 LEFT-TO-RIGHT MARK
    1 RIGHT-TO-LEFT MARK
    1 HYPHEN
    1 NON-BREAKING HYPHEN
    1 FIGURE DASH
    1 EN DASH
    1 EM DASH
    1 HORIZONTAL BAR
    1 DOUBLE VERTICAL LINE
    1 DOUBLE LOW LINE
    1 LEFT SINGLE QUOTATION MARK
    1 RIGHT SINGLE QUOTATION MARK
    1 SINGLE LOW-9 QUOTATION MARK
    1 SINGLE HIGH-REVERSED-9 QUOTATION MARK
    1 LEFT DOUBLE QUOTATION MARK
    1 RIGHT DOUBLE QUOTATION MARK
    1 DOUBLE LOW-9 QUOTATION MARK
    1 DOUBLE HIGH-REVERSED-9 QUOTATION MARK
    1 DAGGER
    1 DOUBLE DAGGER
    1 BULLET
    1 TRIANGULAR BULLET
    1 ONE DOT LEADER
    1 TWO DOT LEADER
    1 HORIZONTAL ELLIPSIS
    1 HYPHENATION POINT
    1 LINE SEPARATOR
    1 PARAGRAPH SEPARATOR
    1 LEFT-TO-RIGHT EMBEDDING
    1 RIGHT-TO-LEFT EMBEDDING
    1 POP DIRECTIONAL FORMATTING
    1 LEFT-TO-RIGHT OVERRIDE
    1 RIGHT-TO-LEFT OVERRIDE
    1 NARROW NO-BREAK SPACE
    1 PER MILLE SIGN
    1 PER TEN THOUSAND SIGN
    1 PRIME
    1 DOUBLE PRIME
    1 TRIPLE PRIME
    1 REVERSED PRIME
    1 REVERSED DOUBLE PRIME
    1 REVERSED TRIPLE PRIME
    1 CARET
    1 SINGLE LEFT-POINTING ANGLE QUOTATION MARK
    1 SINGLE RIGHT-POINTING ANGLE QUOTATION MARK
    1 REFERENCE MARK
    1 DOUBLE EXCLAMATION MARK
    1 INTERROBANG
    1 OVERLINE
    1 UNDERTIE
    1 CHARACTER TIE
    1 CARET INSERTION POINT
    1 ASTERISM
    1 HYPHEN BULLET
    1 FRACTION SLASH
    1 LEFT SQUARE BRACKET WITH QUILL
    1 RIGHT SQUARE BRACKET WITH QUILL
    1 DOUBLE QUESTION MARK
    1 QUESTION EXCLAMATION MARK
    1 EXCLAMATION QUESTION MARK
    1 TIRONIAN SIGN ET
    1 REVERSED PILCROW SIGN
    1 BLACK LEFTWARDS BULLET
    1 BLACK RIGHTWARDS BULLET
    1 LOW ASTERISK
    1 REVERSED SEMICOLON
    1 CLOSE UP
    1 TWO ASTERISKS ALIGNED VERTICALLY
    1 COMMERCIAL MINUS SIGN
    1 SWUNG DASH
    1 INVERTED UNDERTIE
    1 FLOWER PUNCTUATION MARK
    1 THREE DOT PUNCTUATION
    1 QUADRUPLE PRIME
    1 FOUR DOT PUNCTUATION
    1 FIVE DOT PUNCTUATION
    1 TWO DOT PUNCTUATION
    1 FOUR DOT MARK
    1 DOTTED CROSS
    1 TRICOLON
    1 VERTICAL FOUR DOTS
    1 MEDIUM MATHEMATICAL SPACE
    1 WORD JOINER
    1 FUNCTION APPLICATION
    1 INVISIBLE TIMES
    1 INVISIBLE SEPARATOR
    1 INVISIBLE PLUS
    2 LEFT-TO-RIGHT ISOLATE
    1 RIGHT-TO-LEFT ISOLATE
    1 FIRST STRONG ISOLATE
    1 POP DIRECTIONAL ISOLATE
    1 INHIBIT SYMMETRIC SWAPPING
    1 ACTIVATE SYMMETRIC SWAPPING
    1 INHIBIT ARABIC FORM SHAPING
    1 ACTIVATE ARABIC FORM SHAPING
    1 NATIONAL DIGIT SHAPES
    1 NOMINAL DIGIT SHAPES
    1 SUPERSCRIPT ZERO
    1 SUPERSCRIPT LATIN SMALL LETTER I
    3 SUPERSCRIPT FOUR
    1 SUPERSCRIPT FIVE
    1 SUPERSCRIPT SIX
    1 SUPERSCRIPT SEVEN
    1 SUPERSCRIPT EIGHT
    1 SUPERSCRIPT NINE
    1 SUPERSCRIPT PLUS SIGN
    1 SUPERSCRIPT MINUS
    1 SUPERSCRIPT EQUALS SIGN
    1 SUPERSCRIPT LEFT PARENTHESIS
    1 SUPERSCRIPT RIGHT PARENTHESIS
    1 SUPERSCRIPT LATIN SMALL LETTER N
    1 SUBSCRIPT ZERO
    1 SUBSCRIPT ONE
    1 SUBSCRIPT TWO
    1 SUBSCRIPT THREE
    1 SUBSCRIPT FOUR
    1 SUBSCRIPT FIVE
    1 SUBSCRIPT SIX
    1 SUBSCRIPT SEVEN
    1 SUBSCRIPT EIGHT
    1 SUBSCRIPT NINE
    1 SUBSCRIPT PLUS SIGN
    1 SUBSCRIPT MINUS
    1 SUBSCRIPT EQUALS SIGN
    1 SUBSCRIPT LEFT PARENTHESIS
    1 SUBSCRIPT RIGHT PARENTHESIS
    2 LATIN SUBSCRIPT SMALL LETTER A
    1 LATIN SUBSCRIPT SMALL LETTER E
    1 LATIN SUBSCRIPT SMALL LETTER O
    1 LATIN SUBSCRIPT SMALL LETTER X
    1 LATIN SUBSCRIPT SMALL LETTER SCHWA
    1 LATIN SUBSCRIPT SMALL LETTER H
    1 LATIN SUBSCRIPT SMALL LETTER K
    1 LATIN SUBSCRIPT SMALL LETTER L
    1 LATIN SUBSCRIPT SMALL LETTER M
    1 LATIN SUBSCRIPT SMALL LETTER N
    1 LATIN SUBSCRIPT SMALL LETTER P
    1 LATIN SUBSCRIPT SMALL LETTER S
    1 LATIN SUBSCRIPT SMALL LETTER T
    4 EURO-CURRENCY SIGN
    1 COLON SIGN
    1 CRUZEIRO SIGN
    1 FRENCH FRANC SIGN
    1 LIRA SIGN
    1 MILL SIGN
    1 NAIRA SIGN
    1 PESETA SIGN
    1 RUPEE SIGN
    1 WON SIGN
    1 NEW SHEQEL SIGN
    1 DONG SIGN
    1 EURO SIGN
    1 KIP SIGN
    1 TUGRIK SIGN
    1 DRACHMA SIGN
    1 GERMAN PENNY SIGN
    1 PESO SIGN
    1 GUARANI SIGN
    1 AUSTRAL SIGN
    1 HRYVNIA SIGN
    1 CEDI SIGN
    1 LIVRE TOURNOIS SIGN
    1 SPESMILO SIGN
    1 TENGE SIGN
    1 INDIAN RUPEE SIGN
    1 TURKISH LIRA SIGN
    1 NORDIC MARK SIGN
    1 MANAT SIGN
    1 RUBLE SIGN
    1 LARI SIGN
    1 BITCOIN SIGN
    41 ACCOUNT OF
    1 ADDRESSED TO THE SUBJECT
    1 DOUBLE-STRUCK CAPITAL C
    1 DEGREE CELSIUS
    1 CENTRE LINE SYMBOL
    1 CARE OF
    1 CADA UNA
    1 EULER CONSTANT
    1 SCRUPLE
    1 DEGREE FAHRENHEIT
    1 SCRIPT SMALL G
    1 SCRIPT CAPITAL H
    1 BLACK-LETTER CAPITAL H
    1 DOUBLE-STRUCK CAPITAL H
    1 PLANCK CONSTANT
    1 PLANCK CONSTANT OVER TWO PI
    1 SCRIPT CAPITAL I
    1 BLACK-LETTER CAPITAL I
    1 SCRIPT CAPITAL L
    1 SCRIPT SMALL L
    1 L B BAR SYMBOL
    1 DOUBLE-STRUCK CAPITAL N
    1 NUMERO SIGN
    1 SOUND RECORDING COPYRIGHT
    1 SCRIPT CAPITAL P
    1 DOUBLE-STRUCK CAPITAL P
    1 DOUBLE-STRUCK CAPITAL Q
    1 SCRIPT CAPITAL R
    1 BLACK-LETTER CAPITAL R
    1 DOUBLE-STRUCK CAPITAL R
    1 PRESCRIPTION TAKE
    1 RESPONSE
    1 SERVICE MARK
    1 TELEPHONE SIGN
    1 TRADE MARK SIGN
    1 VERSICLE
    1 DOUBLE-STRUCK CAPITAL Z
    1 OUNCE SIGN
    1 OHM SIGN
    1 INVERTED OHM SIGN
    1 BLACK-LETTER CAPITAL Z
    1 TURNED GREEK SMALL LETTER IOTA
    1 KELVIN SIGN
    1 ANGSTROM SIGN
    1 SCRIPT CAPITAL B
    1 BLACK-LETTER CAPITAL C
    1 ESTIMATED SYMBOL
    1 SCRIPT SMALL E
    1 SCRIPT CAPITAL E
    1 SCRIPT CAPITAL F
    1 TURNED CAPITAL F
    1 SCRIPT CAPITAL M
    1 SCRIPT SMALL O
    1 ALEF SYMBOL
    1 BET SYMBOL
    1 GIMEL SYMBOL
    1 DALET SYMBOL
    1 INFORMATION SOURCE
    1 ROTATED CAPITAL Q
    1 FACSIMILE SIGN
    1 DOUBLE-STRUCK SMALL PI
    1 DOUBLE-STRUCK SMALL GAMMA
    1 DOUBLE-STRUCK CAPITAL GAMMA
    1 DOUBLE-STRUCK CAPITAL PI
    1 DOUBLE-STRUCK N-ARY SUMMATION
    1 TURNED SANS-SERIF CAPITAL G
    1 TURNED SANS-SERIF CAPITAL L
    1 REVERSED SANS-SERIF CAPITAL L
    1 TURNED SANS-SERIF CAPITAL Y
    1 DOUBLE-STRUCK ITALIC CAPITAL D
    1 DOUBLE-STRUCK ITALIC SMALL D
    1 DOUBLE-STRUCK ITALIC SMALL E
    1 DOUBLE-STRUCK ITALIC SMALL I
    1 DOUBLE-STRUCK ITALIC SMALL J
    1 PROPERTY LINE
    1 TURNED AMPERSAND
    1 PER SIGN
    1 AKTIESELSKAB
    1 TURNED SMALL F
    1 SYMBOL FOR SAMARITAN SOURCE
    1 VULGAR FRACTION ONE SEVENTH
    1 VULGAR FRACTION ONE NINTH
    1 VULGAR FRACTION ONE TENTH
    1 VULGAR FRACTION ONE THIRD
    1 VULGAR FRACTION TWO THIRDS
    1 VULGAR FRACTION ONE FIFTH
    1 VULGAR FRACTION TWO FIFTHS
    1 VULGAR FRACTION THREE FIFTHS
    1 VULGAR FRACTION FOUR FIFTHS
    1 VULGAR FRACTION ONE SIXTH
    1 VULGAR FRACTION FIVE SIXTHS
    1 VULGAR FRACTION ONE EIGHTH
    1 VULGAR FRACTION THREE EIGHTHS
    1 VULGAR FRACTION FIVE EIGHTHS
    1 VULGAR FRACTION SEVEN EIGHTHS
    1 FRACTION NUMERATOR ONE
    1 ROMAN NUMERAL ONE
    1 ROMAN NUMERAL TWO
    1 ROMAN NUMERAL THREE
    1 ROMAN NUMERAL FOUR
    1 ROMAN NUMERAL FIVE
    1 ROMAN NUMERAL SIX
    1 ROMAN NUMERAL SEVEN
    1 ROMAN NUMERAL EIGHT
    1 ROMAN NUMERAL NINE
    1 ROMAN NUMERAL TEN
    1 ROMAN NUMERAL ELEVEN
    1 ROMAN NUMERAL TWELVE
    1 ROMAN NUMERAL FIFTY
    1 ROMAN NUMERAL ONE HUNDRED
    1 ROMAN NUMERAL FIVE HUNDRED
    1 ROMAN NUMERAL ONE THOUSAND
    1 SMALL ROMAN NUMERAL ONE
    1 SMALL ROMAN NUMERAL TWO
    1 SMALL ROMAN NUMERAL THREE
    1 SMALL ROMAN NUMERAL FOUR
    1 SMALL ROMAN NUMERAL FIVE
    1 SMALL ROMAN NUMERAL SIX
    1 SMALL ROMAN NUMERAL SEVEN
    1 SMALL ROMAN NUMERAL EIGHT
    1 SMALL ROMAN NUMERAL NINE
    1 SMALL ROMAN NUMERAL TEN
    1 SMALL ROMAN NUMERAL ELEVEN
    1 SMALL ROMAN NUMERAL TWELVE
    1 SMALL ROMAN NUMERAL FIFTY
    1 SMALL ROMAN NUMERAL ONE HUNDRED
    1 SMALL ROMAN NUMERAL FIVE HUNDRED
    1 SMALL ROMAN NUMERAL ONE THOUSAND
    1 ROMAN NUMERAL ONE THOUSAND C D
    1 ROMAN NUMERAL FIVE THOUSAND
    1 ROMAN NUMERAL TEN THOUSAND
    1 ROMAN NUMERAL REVERSED ONE HUNDRED
    1 LATIN SMALL LETTER REVERSED C
    1 ROMAN NUMERAL SIX LATE FORM
    1 ROMAN NUMERAL FIFTY EARLY FORM
    1 ROMAN NUMERAL FIFTY THOUSAND
    1 ROMAN NUMERAL ONE HUNDRED THOUSAND
    1 VULGAR FRACTION ZERO THIRDS
    1 TURNED DIGIT TWO
    1 TURNED DIGIT THREE
    5 LEFTWARDS ARROW
    1 UPWARDS ARROW
    1 RIGHTWARDS ARROW
    1 DOWNWARDS ARROW
    1 LEFT RIGHT ARROW
    1 UP DOWN ARROW
    1 NORTH WEST ARROW
    1 NORTH EAST ARROW
    1 SOUTH EAST ARROW
    1 SOUTH WEST ARROW
    1 LEFTWARDS ARROW WITH STROKE
    1 RIGHTWARDS ARROW WITH STROKE
    1 LEFTWARDS WAVE ARROW
    1 RIGHTWARDS WAVE ARROW
    1 LEFTWARDS TWO HEADED ARROW
    1 UPWARDS TWO HEADED ARROW
    1 RIGHTWARDS TWO HEADED ARROW
    1 DOWNWARDS TWO HEADED ARROW
    1 LEFTWARDS ARROW WITH TAIL
    1 RIGHTWARDS ARROW WITH TAIL
    1 LEFTWARDS ARROW FROM BAR
    1 UPWARDS ARROW FROM BAR
    1 RIGHTWARDS ARROW FROM BAR
    1 DOWNWARDS ARROW FROM BAR
    1 UP DOWN ARROW WITH BASE
    1 LEFTWARDS ARROW WITH HOOK
    1 RIGHTWARDS ARROW WITH HOOK
    1 LEFTWARDS ARROW WITH LOOP
    1 RIGHTWARDS ARROW WITH LOOP
    1 LEFT RIGHT WAVE ARROW
    1 LEFT RIGHT ARROW WITH STROKE
    1 DOWNWARDS ZIGZAG ARROW
    1 UPWARDS ARROW WITH TIP LEFTWARDS
    1 UPWARDS ARROW WITH TIP RIGHTWARDS
    1 DOWNWARDS ARROW WITH TIP LEFTWARDS
    1 DOWNWARDS ARROW WITH TIP RIGHTWARDS
    1 RIGHTWARDS ARROW WITH CORNER DOWNWARDS
    1 DOWNWARDS ARROW WITH CORNER LEFTWARDS
    1 ANTICLOCKWISE TOP SEMICIRCLE ARROW
    1 CLOCKWISE TOP SEMICIRCLE ARROW
    1 NORTH WEST ARROW TO LONG BAR
    1 LEFTWARDS ARROW TO BAR OVER RIGHTWARDS ARROW TO BAR
    1 ANTICLOCKWISE OPEN CIRCLE ARROW
    1 CLOCKWISE OPEN CIRCLE ARROW
    1 LEFTWARDS HARPOON WITH BARB UPWARDS
    1 LEFTWARDS HARPOON WITH BARB DOWNWARDS
    1 UPWARDS HARPOON WITH BARB RIGHTWARDS
    1 UPWARDS HARPOON WITH BARB LEFTWARDS
    1 RIGHTWARDS HARPOON WITH BARB UPWARDS
    1 RIGHTWARDS HARPOON WITH BARB DOWNWARDS
    1 DOWNWARDS HARPOON WITH BARB RIGHTWARDS
    1 DOWNWARDS HARPOON WITH BARB LEFTWARDS
    1 RIGHTWARDS ARROW OVER LEFTWARDS ARROW
    1 UPWARDS ARROW LEFTWARDS OF DOWNWARDS ARROW
    1 LEFTWARDS ARROW OVER RIGHTWARDS ARROW
    1 LEFTWARDS PAIRED ARROWS
    1 UPWARDS PAIRED ARROWS
    1 RIGHTWARDS PAIRED ARROWS
    1 DOWNWARDS PAIRED ARROWS
    1 LEFTWARDS HARPOON OVER RIGHTWARDS HARPOON
    1 RIGHTWARDS HARPOON OVER LEFTWARDS HARPOON
    1 LEFTWARDS DOUBLE ARROW WITH STROKE
    1 LEFT RIGHT DOUBLE ARROW WITH STROKE
    1 RIGHTWARDS DOUBLE ARROW WITH STROKE
    1 LEFTWARDS DOUBLE ARROW
    1 UPWARDS DOUBLE ARROW
    1 RIGHTWARDS DOUBLE ARROW
    1 DOWNWARDS DOUBLE ARROW
    1 LEFT RIGHT DOUBLE ARROW
    1 UP DOWN DOUBLE ARROW
    1 NORTH WEST DOUBLE ARROW
    1 NORTH EAST DOUBLE ARROW
    1 SOUTH EAST DOUBLE ARROW
    1 SOUTH WEST DOUBLE ARROW
    1 LEFTWARDS TRIPLE ARROW
    1 RIGHTWARDS TRIPLE ARROW
    1 LEFTWARDS SQUIGGLE ARROW
    1 RIGHTWARDS SQUIGGLE ARROW
    1 UPWARDS ARROW WITH DOUBLE STROKE
    1 DOWNWARDS ARROW WITH DOUBLE STROKE
    1 LEFTWARDS DASHED ARROW
    1 UPWARDS DASHED ARROW
    1 RIGHTWARDS DASHED ARROW
    1 DOWNWARDS DASHED ARROW
    1 LEFTWARDS ARROW TO BAR
    1 RIGHTWARDS ARROW TO BAR
    1 LEFTWARDS WHITE ARROW
    1 UPWARDS WHITE ARROW
    1 RIGHTWARDS WHITE ARROW
    1 DOWNWARDS WHITE ARROW
    1 UPWARDS WHITE ARROW FROM BAR
    1 UPWARDS WHITE ARROW ON PEDESTAL
    1 UPWARDS WHITE ARROW ON PEDESTAL WITH HORIZONTAL BAR
    1 UPWARDS WHITE ARROW ON PEDESTAL WITH VERTICAL BAR
    1 UPWARDS WHITE DOUBLE ARROW
    1 UPWARDS WHITE DOUBLE ARROW ON PEDESTAL
    1 RIGHTWARDS WHITE ARROW FROM WALL
    1 NORTH WEST ARROW TO CORNER
    1 SOUTH EAST ARROW TO CORNER
    1 UP DOWN WHITE ARROW
    1 RIGHT ARROW WITH SMALL CIRCLE
    1 DOWNWARDS ARROW LEFTWARDS OF UPWARDS ARROW
    1 THREE RIGHTWARDS ARROWS
    1 LEFTWARDS ARROW WITH VERTICAL STROKE
    1 RIGHTWARDS ARROW WITH VERTICAL STROKE
    1 LEFT RIGHT ARROW WITH VERTICAL STROKE
    1 LEFTWARDS ARROW WITH DOUBLE VERTICAL STROKE
    1 RIGHTWARDS ARROW WITH DOUBLE VERTICAL STROKE
    1 LEFT RIGHT ARROW WITH DOUBLE VERTICAL STROKE
    1 LEFTWARDS OPEN-HEADED ARROW
    1 RIGHTWARDS OPEN-HEADED ARROW
    1 LEFT RIGHT OPEN-HEADED ARROW
    1 FOR ALL
    1 COMPLEMENT
    1 PARTIAL DIFFERENTIAL
    1 THERE EXISTS
    1 THERE DOES NOT EXIST
    1 EMPTY SET
    1 INCREMENT
    1 NABLA
    1 ELEMENT OF
    1 NOT AN ELEMENT OF
    1 SMALL ELEMENT OF
    1 CONTAINS AS MEMBER
    1 DOES NOT CONTAIN AS MEMBER
    1 SMALL CONTAINS AS MEMBER
    1 END OF PROOF
    1 N-ARY PRODUCT
    1 N-ARY COPRODUCT
    1 N-ARY SUMMATION
    1 MINUS SIGN
    1 MINUS-OR-PLUS SIGN
    1 DOT PLUS
    1 DIVISION SLASH
    1 SET MINUS
    1 ASTERISK OPERATOR
    1 RING OPERATOR
    1 BULLET OPERATOR
    1 SQUARE ROOT
    1 CUBE ROOT
    1 FOURTH ROOT
    1 PROPORTIONAL TO
    1 INFINITY
    1 RIGHT ANGLE
    1 ANGLE
    1 MEASURED ANGLE
    1 SPHERICAL ANGLE
    1 DIVIDES
    1 DOES NOT DIVIDE
    1 PARALLEL TO
    1 NOT PARALLEL TO
    1 LOGICAL AND
    1 LOGICAL OR
    1 INTERSECTION
    1 UNION
    1 INTEGRAL
    1 DOUBLE INTEGRAL
    1 TRIPLE INTEGRAL
    1 CONTOUR INTEGRAL
    1 SURFACE INTEGRAL
    1 VOLUME INTEGRAL
    1 CLOCKWISE INTEGRAL
    1 CLOCKWISE CONTOUR INTEGRAL
    1 ANTICLOCKWISE CONTOUR INTEGRAL
    1 THEREFORE
    1 BECAUSE
    1 RATIO
    1 PROPORTION
    1 DOT MINUS
    1 EXCESS
    1 GEOMETRIC PROPORTION
    1 HOMOTHETIC
    1 TILDE OPERATOR
    1 REVERSED TILDE
    1 INVERTED LAZY S
    1 SINE WAVE
    1 WREATH PRODUCT
    1 NOT TILDE
    1 MINUS TILDE
    1 ASYMPTOTICALLY EQUAL TO
    1 NOT ASYMPTOTICALLY EQUAL TO
    1 APPROXIMATELY EQUAL TO
    1 APPROXIMATELY BUT NOT ACTUALLY EQUAL TO
    1 NEITHER APPROXIMATELY NOR ACTUALLY EQUAL TO
    1 ALMOST EQUAL TO
    1 NOT ALMOST EQUAL TO
    1 ALMOST EQUAL OR EQUAL TO
    1 TRIPLE TILDE
    1 ALL EQUAL TO
    1 EQUIVALENT TO
    1 GEOMETRICALLY EQUIVALENT TO
    1 DIFFERENCE BETWEEN
    1 APPROACHES THE LIMIT
    1 GEOMETRICALLY EQUAL TO
    1 APPROXIMATELY EQUAL TO OR THE IMAGE OF
    1 IMAGE OF OR APPROXIMATELY EQUAL TO
    1 COLON EQUALS
    1 EQUALS COLON
    1 RING IN EQUAL TO
    1 RING EQUAL TO
    1 CORRESPONDS TO
    1 ESTIMATES
    1 EQUIANGULAR TO
    1 STAR EQUALS
    1 DELTA EQUAL TO
    1 EQUAL TO BY DEFINITION
    1 MEASURED BY
    1 QUESTIONED EQUAL TO
    1 NOT EQUAL TO
    1 IDENTICAL TO
    1 NOT IDENTICAL TO
    1 STRICTLY EQUIVALENT TO
    1 LESS-THAN OR EQUAL TO
    1 GREATER-THAN OR EQUAL TO
    1 LESS-THAN OVER EQUAL TO
    1 GREATER-THAN OVER EQUAL TO
    1 LESS-THAN BUT NOT EQUAL TO
    1 GREATER-THAN BUT NOT EQUAL TO
    1 MUCH LESS-THAN
    1 MUCH GREATER-THAN
    1 BETWEEN
    1 NOT EQUIVALENT TO
    1 NOT LESS-THAN
    1 NOT GREATER-THAN
    1 NEITHER LESS-THAN NOR EQUAL TO
    1 NEITHER GREATER-THAN NOR EQUAL TO
    1 LESS-THAN OR EQUIVALENT TO
    1 GREATER-THAN OR EQUIVALENT TO
    1 NEITHER LESS-THAN NOR EQUIVALENT TO
    1 NEITHER GREATER-THAN NOR EQUIVALENT TO
    1 LESS-THAN OR GREATER-THAN
    1 GREATER-THAN OR LESS-THAN
    1 NEITHER LESS-THAN NOR GREATER-THAN
    1 NEITHER GREATER-THAN NOR LESS-THAN
    1 PRECEDES
    1 SUCCEEDS
    1 PRECEDES OR EQUAL TO
    1 SUCCEEDS OR EQUAL TO
    1 PRECEDES OR EQUIVALENT TO
    1 SUCCEEDS OR EQUIVALENT TO
    1 DOES NOT PRECEDE
    1 DOES NOT SUCCEED
    1 SUBSET OF
    1 SUPERSET OF
    1 NOT A SUBSET OF
    1 NOT A SUPERSET OF
    1 SUBSET OF OR EQUAL TO
    1 SUPERSET OF OR EQUAL TO
    1 NEITHER A SUBSET OF NOR EQUAL TO
    1 NEITHER A SUPERSET OF NOR EQUAL TO
    1 SUBSET OF WITH NOT EQUAL TO
    1 SUPERSET OF WITH NOT EQUAL TO
    1 MULTISET
    1 MULTISET MULTIPLICATION
    1 MULTISET UNION
    1 SQUARE IMAGE OF
    1 SQUARE ORIGINAL OF
    1 SQUARE IMAGE OF OR EQUAL TO
    1 SQUARE ORIGINAL OF OR EQUAL TO
    1 SQUARE CAP
    1 SQUARE CUP
    1 CIRCLED PLUS
    1 CIRCLED MINUS
    1 CIRCLED TIMES
    1 CIRCLED DIVISION SLASH
    1 CIRCLED DOT OPERATOR
    1 CIRCLED RING OPERATOR
    1 CIRCLED ASTERISK OPERATOR
    1 CIRCLED EQUALS
    1 CIRCLED DASH
    1 SQUARED PLUS
    1 SQUARED MINUS
    1 SQUARED TIMES
    1 SQUARED DOT OPERATOR
    1 RIGHT TACK
    1 LEFT TACK
    1 DOWN TACK
    1 UP TACK
    1 ASSERTION
    1 MODELS
    1 TRUE
    1 FORCES
    1 TRIPLE VERTICAL BAR RIGHT TURNSTILE
    1 DOUBLE VERTICAL BAR DOUBLE RIGHT TURNSTILE
    1 DOES NOT PROVE
    1 NOT TRUE
    1 DOES NOT FORCE
    1 NEGATED DOUBLE VERTICAL BAR DOUBLE RIGHT TURNSTILE
    1 PRECEDES UNDER RELATION
    1 SUCCEEDS UNDER RELATION
    1 NORMAL SUBGROUP OF
    1 CONTAINS AS NORMAL SUBGROUP
    1 NORMAL SUBGROUP OF OR EQUAL TO
    1 CONTAINS AS NORMAL SUBGROUP OR EQUAL TO
    1 ORIGINAL OF
    1 IMAGE OF
    1 MULTIMAP
    1 HERMITIAN CONJUGATE MATRIX
    1 INTERCALATE
    1 XOR
    1 NAND
    1 NOR
    1 RIGHT ANGLE WITH ARC
    1 RIGHT TRIANGLE
    1 N-ARY LOGICAL AND
    1 N-ARY LOGICAL OR
    1 N-ARY INTERSECTION
    1 N-ARY UNION
    1 DIAMOND OPERATOR
    1 DOT OPERATOR
    1 STAR OPERATOR
    1 DIVISION TIMES
    1 BOWTIE
    1 LEFT NORMAL FACTOR SEMIDIRECT PRODUCT
    1 RIGHT NORMAL FACTOR SEMIDIRECT PRODUCT
    1 LEFT SEMIDIRECT PRODUCT
    1 RIGHT SEMIDIRECT PRODUCT
    1 REVERSED TILDE EQUALS
    1 CURLY LOGICAL OR
    1 CURLY LOGICAL AND
    1 DOUBLE SUBSET
    1 DOUBLE SUPERSET
    1 DOUBLE INTERSECTION
    1 DOUBLE UNION
    1 PITCHFORK
    1 EQUAL AND PARALLEL TO
    1 LESS-THAN WITH DOT
    1 GREATER-THAN WITH DOT
    1 VERY MUCH LESS-THAN
    1 VERY MUCH GREATER-THAN
    1 LESS-THAN EQUAL TO OR GREATER-THAN
    1 GREATER-THAN EQUAL TO OR LESS-THAN
    1 EQUAL TO OR LESS-THAN
    1 EQUAL TO OR GREATER-THAN
    1 EQUAL TO OR PRECEDES
    1 EQUAL TO OR SUCCEEDS
    1 DOES NOT PRECEDE OR EQUAL
    1 DOES NOT SUCCEED OR EQUAL
    1 NOT SQUARE IMAGE OF OR EQUAL TO
    1 NOT SQUARE ORIGINAL OF OR EQUAL TO
    1 SQUARE IMAGE OF OR NOT EQUAL TO
    1 SQUARE ORIGINAL OF OR NOT EQUAL TO
    1 LESS-THAN BUT NOT EQUIVALENT TO
    1 GREATER-THAN BUT NOT EQUIVALENT TO
    1 PRECEDES BUT NOT EQUIVALENT TO
    1 SUCCEEDS BUT NOT EQUIVALENT TO
    1 NOT NORMAL SUBGROUP OF
    1 DOES NOT CONTAIN AS NORMAL SUBGROUP
    1 NOT NORMAL SUBGROUP OF OR EQUAL TO
    1 DOES NOT CONTAIN AS NORMAL SUBGROUP OR EQUAL
    1 VERTICAL ELLIPSIS
    1 MIDLINE HORIZONTAL ELLIPSIS
    1 UP RIGHT DIAGONAL ELLIPSIS
    1 DOWN RIGHT DIAGONAL ELLIPSIS
    1 ELEMENT OF WITH LONG HORIZONTAL STROKE
    1 ELEMENT OF WITH VERTICAL BAR AT END OF HORIZONTAL STROKE
    1 SMALL ELEMENT OF WITH VERTICAL BAR AT END OF HORIZONTAL STROKE
    1 ELEMENT OF WITH DOT ABOVE
    1 ELEMENT OF WITH OVERBAR
    1 SMALL ELEMENT OF WITH OVERBAR
    1 ELEMENT OF WITH UNDERBAR
    1 ELEMENT OF WITH TWO HORIZONTAL STROKES
    1 CONTAINS WITH LONG HORIZONTAL STROKE
    1 CONTAINS WITH VERTICAL BAR AT END OF HORIZONTAL STROKE
    1 SMALL CONTAINS WITH VERTICAL BAR AT END OF HORIZONTAL STROKE
    1 CONTAINS WITH OVERBAR
    1 SMALL CONTAINS WITH OVERBAR
    1 Z NOTATION BAG MEMBERSHIP
    1 DIAMETER SIGN
    1 ELECTRIC ARROW
    1 HOUSE
    1 UP ARROWHEAD
    1 DOWN ARROWHEAD
    1 PROJECTIVE
    1 PERSPECTIVE
    1 WAVY LINE
    1 LEFT CEILING
    1 RIGHT CEILING
    1 LEFT FLOOR
    1 RIGHT FLOOR
    1 BOTTOM RIGHT CROP
    1 BOTTOM LEFT CROP
    1 TOP RIGHT CROP
    1 TOP LEFT CROP
    1 REVERSED NOT SIGN
    1 SQUARE LOZENGE
    1 ARC
    1 SEGMENT
    1 SECTOR
    1 TELEPHONE RECORDER
    1 POSITION INDICATOR
    1 VIEWDATA SQUARE
    1 PLACE OF INTEREST SIGN
    1 TURNED NOT SIGN
    1 WATCH
    1 HOURGLASS
    1 TOP LEFT CORNER
    1 TOP RIGHT CORNER
    1 BOTTOM LEFT CORNER
    1 BOTTOM RIGHT CORNER
    1 TOP HALF INTEGRAL
    1 BOTTOM HALF INTEGRAL
    1 FROWN
    1 SMILE
    1 UP ARROWHEAD BETWEEN TWO HORIZONTAL BARS
    1 OPTION KEY
    1 ERASE TO THE RIGHT
    1 X IN A RECTANGLE BOX
    1 KEYBOARD
    1 LEFT-POINTING ANGLE BRACKET
    1 RIGHT-POINTING ANGLE BRACKET
    1 ERASE TO THE LEFT
    1 BENZENE RING
    1 CYLINDRICITY
    1 ALL AROUND-PROFILE
    1 SYMMETRY
    1 TOTAL RUNOUT
    1 DIMENSION ORIGIN
    1 CONICAL TAPER
    1 SLOPE
    1 COUNTERBORE
    1 COUNTERSINK
    1 APL FUNCTIONAL SYMBOL I-BEAM
    1 APL FUNCTIONAL SYMBOL SQUISH QUAD
    1 APL FUNCTIONAL SYMBOL QUAD EQUAL
    1 APL FUNCTIONAL SYMBOL QUAD DIVIDE
    1 APL FUNCTIONAL SYMBOL QUAD DIAMOND
    1 APL FUNCTIONAL SYMBOL QUAD JOT
    1 APL FUNCTIONAL SYMBOL QUAD CIRCLE
    1 APL FUNCTIONAL SYMBOL CIRCLE STILE
    1 APL FUNCTIONAL SYMBOL CIRCLE JOT
    1 APL FUNCTIONAL SYMBOL SLASH BAR
    1 APL FUNCTIONAL SYMBOL BACKSLASH BAR
    1 APL FUNCTIONAL SYMBOL QUAD SLASH
    1 APL FUNCTIONAL SYMBOL QUAD BACKSLASH
    1 APL FUNCTIONAL SYMBOL QUAD LESS-THAN
    1 APL FUNCTIONAL SYMBOL QUAD GREATER-THAN
    1 APL FUNCTIONAL SYMBOL LEFTWARDS VANE
    1 APL FUNCTIONAL SYMBOL RIGHTWARDS VANE
    1 APL FUNCTIONAL SYMBOL QUAD LEFTWARDS ARROW
    1 APL FUNCTIONAL SYMBOL QUAD RIGHTWARDS ARROW
    1 APL FUNCTIONAL SYMBOL CIRCLE BACKSLASH
    1 APL FUNCTIONAL SYMBOL DOWN TACK UNDERBAR
    1 APL FUNCTIONAL SYMBOL DELTA STILE
    1 APL FUNCTIONAL SYMBOL QUAD DOWN CARET
    1 APL FUNCTIONAL SYMBOL QUAD DELTA
    1 APL FUNCTIONAL SYMBOL DOWN TACK JOT
    1 APL FUNCTIONAL SYMBOL UPWARDS VANE
    1 APL FUNCTIONAL SYMBOL QUAD UPWARDS ARROW
    1 APL FUNCTIONAL SYMBOL UP TACK OVERBAR
    1 APL FUNCTIONAL SYMBOL DEL STILE
    1 APL FUNCTIONAL SYMBOL QUAD UP CARET
    1 APL FUNCTIONAL SYMBOL QUAD DEL
    1 APL FUNCTIONAL SYMBOL UP TACK JOT
    1 APL FUNCTIONAL SYMBOL DOWNWARDS VANE
    1 APL FUNCTIONAL SYMBOL QUAD DOWNWARDS ARROW
    1 APL FUNCTIONAL SYMBOL QUOTE UNDERBAR
    1 APL FUNCTIONAL SYMBOL DELTA UNDERBAR
    1 APL FUNCTIONAL SYMBOL DIAMOND UNDERBAR
    1 APL FUNCTIONAL SYMBOL JOT UNDERBAR
    1 APL FUNCTIONAL SYMBOL CIRCLE UNDERBAR
    1 APL FUNCTIONAL SYMBOL UP SHOE JOT
    1 APL FUNCTIONAL SYMBOL QUOTE QUAD
    1 APL FUNCTIONAL SYMBOL CIRCLE STAR
    1 APL FUNCTIONAL SYMBOL QUAD COLON
    1 APL FUNCTIONAL SYMBOL UP TACK DIAERESIS
    1 APL FUNCTIONAL SYMBOL DEL DIAERESIS
    1 APL FUNCTIONAL SYMBOL STAR DIAERESIS
    1 APL FUNCTIONAL SYMBOL JOT DIAERESIS
    1 APL FUNCTIONAL SYMBOL CIRCLE DIAERESIS
    1 APL FUNCTIONAL SYMBOL DOWN SHOE STILE
    1 APL FUNCTIONAL SYMBOL LEFT SHOE STILE
    1 APL FUNCTIONAL SYMBOL TILDE DIAERESIS
    1 APL FUNCTIONAL SYMBOL GREATER-THAN DIAERESIS
    1 APL FUNCTIONAL SYMBOL COMMA BAR
    1 APL FUNCTIONAL SYMBOL DEL TILDE
    1 APL FUNCTIONAL SYMBOL ZILDE
    1 APL FUNCTIONAL SYMBOL STILE TILDE
    1 APL FUNCTIONAL SYMBOL SEMICOLON UNDERBAR
    1 APL FUNCTIONAL SYMBOL QUAD NOT EQUAL
    1 APL FUNCTIONAL SYMBOL QUAD QUESTION
    1 APL FUNCTIONAL SYMBOL DOWN CARET TILDE
    1 APL FUNCTIONAL SYMBOL UP CARET TILDE
    1 APL FUNCTIONAL SYMBOL IOTA
    1 APL FUNCTIONAL SYMBOL RHO
    1 APL FUNCTIONAL SYMBOL OMEGA
    1 APL FUNCTIONAL SYMBOL ALPHA UNDERBAR
    1 APL FUNCTIONAL SYMBOL EPSILON UNDERBAR
    1 APL FUNCTIONAL SYMBOL IOTA UNDERBAR
    1 APL FUNCTIONAL SYMBOL OMEGA UNDERBAR
    1 APL FUNCTIONAL SYMBOL ALPHA
    1 NOT CHECK MARK
    1 RIGHT ANGLE WITH DOWNWARDS ZIGZAG ARROW
    1 SHOULDERED OPEN BOX
    1 BELL SYMBOL
    1 VERTICAL LINE WITH MIDDLE DOT
    1 INSERTION SYMBOL
    1 CONTINUOUS UNDERLINE SYMBOL
    1 DISCONTINUOUS UNDERLINE SYMBOL
    1 EMPHASIS SYMBOL
    1 COMPOSITION SYMBOL
    1 WHITE SQUARE WITH CENTRE VERTICAL LINE
    1 ENTER SYMBOL
    1 ALTERNATIVE KEY SYMBOL
    1 HELM SYMBOL
    1 CIRCLED HORIZONTAL BAR WITH NOTCH
    1 CIRCLED TRIANGLE DOWN
    1 BROKEN CIRCLE WITH NORTHWEST ARROW
    1 UNDO SYMBOL
    1 MONOSTABLE SYMBOL
    1 HYSTERESIS SYMBOL
    1 OPEN-CIRCUIT-OUTPUT H-TYPE SYMBOL
    1 OPEN-CIRCUIT-OUTPUT L-TYPE SYMBOL
    1 PASSIVE-PULL-DOWN-OUTPUT SYMBOL
    1 PASSIVE-PULL-UP-OUTPUT SYMBOL
    1 DIRECT CURRENT SYMBOL FORM TWO
    1 SOFTWARE-FUNCTION SYMBOL
    1 APL FUNCTIONAL SYMBOL QUAD
    1 DECIMAL SEPARATOR KEY SYMBOL
    1 PREVIOUS PAGE
    1 NEXT PAGE
    1 PRINT SCREEN SYMBOL
    1 CLEAR SCREEN SYMBOL
    1 LEFT PARENTHESIS UPPER HOOK
    1 LEFT PARENTHESIS EXTENSION
    1 LEFT PARENTHESIS LOWER HOOK
    1 RIGHT PARENTHESIS UPPER HOOK
    1 RIGHT PARENTHESIS EXTENSION
    1 RIGHT PARENTHESIS LOWER HOOK
    1 LEFT SQUARE BRACKET UPPER CORNER
    1 LEFT SQUARE BRACKET EXTENSION
    1 LEFT SQUARE BRACKET LOWER CORNER
    1 RIGHT SQUARE BRACKET UPPER CORNER
    1 RIGHT SQUARE BRACKET EXTENSION
    1 RIGHT SQUARE BRACKET LOWER CORNER
    1 LEFT CURLY BRACKET UPPER HOOK
    1 LEFT CURLY BRACKET MIDDLE PIECE
    1 LEFT CURLY BRACKET LOWER HOOK
    1 CURLY BRACKET EXTENSION
    1 RIGHT CURLY BRACKET UPPER HOOK
    1 RIGHT CURLY BRACKET MIDDLE PIECE
    1 RIGHT CURLY BRACKET LOWER HOOK
    1 INTEGRAL EXTENSION
    1 HORIZONTAL LINE EXTENSION
    1 UPPER LEFT OR LOWER RIGHT CURLY BRACKET SECTION
    1 UPPER RIGHT OR LOWER LEFT CURLY BRACKET SECTION
    1 SUMMATION TOP
    1 SUMMATION BOTTOM
    1 TOP SQUARE BRACKET
    1 BOTTOM SQUARE BRACKET
    1 BOTTOM SQUARE BRACKET OVER TOP SQUARE BRACKET
    1 RADICAL SYMBOL BOTTOM
    1 LEFT VERTICAL BOX LINE
    1 RIGHT VERTICAL BOX LINE
    1 HORIZONTAL SCAN LINE-1
    1 HORIZONTAL SCAN LINE-3
    1 HORIZONTAL SCAN LINE-7
    1 HORIZONTAL SCAN LINE-9
    1 DENTISTRY SYMBOL LIGHT VERTICAL AND TOP RIGHT
    1 DENTISTRY SYMBOL LIGHT VERTICAL AND BOTTOM RIGHT
    1 DENTISTRY SYMBOL LIGHT VERTICAL WITH CIRCLE
    1 DENTISTRY SYMBOL LIGHT DOWN AND HORIZONTAL WITH CIRCLE
    1 DENTISTRY SYMBOL LIGHT UP AND HORIZONTAL WITH CIRCLE
    1 DENTISTRY SYMBOL LIGHT VERTICAL WITH TRIANGLE
    1 DENTISTRY SYMBOL LIGHT DOWN AND HORIZONTAL WITH TRIANGLE
    1 DENTISTRY SYMBOL LIGHT UP AND HORIZONTAL WITH TRIANGLE
    1 DENTISTRY SYMBOL LIGHT VERTICAL AND WAVE
    1 DENTISTRY SYMBOL LIGHT DOWN AND HORIZONTAL WITH WAVE
    1 DENTISTRY SYMBOL LIGHT UP AND HORIZONTAL WITH WAVE
    1 DENTISTRY SYMBOL LIGHT DOWN AND HORIZONTAL
    1 DENTISTRY SYMBOL LIGHT UP AND HORIZONTAL
    1 DENTISTRY SYMBOL LIGHT VERTICAL AND TOP LEFT
    1 DENTISTRY SYMBOL LIGHT VERTICAL AND BOTTOM LEFT
    1 SQUARE FOOT
    1 RETURN SYMBOL
    1 EJECT SYMBOL
    1 VERTICAL LINE EXTENSION
    1 METRICAL BREVE
    1 METRICAL LONG OVER SHORT
    1 METRICAL SHORT OVER LONG
    1 METRICAL LONG OVER TWO SHORTS
    1 METRICAL TWO SHORTS OVER LONG
    1 METRICAL TWO SHORTS JOINED
    1 METRICAL TRISEME
    1 METRICAL TETRASEME
    1 METRICAL PENTASEME
    1 EARTH GROUND
    1 FUSE
    1 TOP PARENTHESIS
    1 BOTTOM PARENTHESIS
    1 TOP CURLY BRACKET
    1 BOTTOM CURLY BRACKET
    1 TOP TORTOISE SHELL BRACKET
    1 BOTTOM TORTOISE SHELL BRACKET
    1 WHITE TRAPEZIUM
    1 BENZENE RING WITH CIRCLE
    1 STRAIGHTNESS
    1 FLATNESS
    1 AC CURRENT
    1 ELECTRICAL INTERSECTION
    1 DECIMAL EXPONENT SYMBOL
    1 BLACK RIGHT-POINTING DOUBLE TRIANGLE
    1 BLACK LEFT-POINTING DOUBLE TRIANGLE
    1 BLACK UP-POINTING DOUBLE TRIANGLE
    1 BLACK DOWN-POINTING DOUBLE TRIANGLE
    1 BLACK RIGHT-POINTING DOUBLE TRIANGLE WITH VERTICAL BAR
    1 BLACK LEFT-POINTING DOUBLE TRIANGLE WITH VERTICAL BAR
    1 BLACK RIGHT-POINTING TRIANGLE WITH DOUBLE VERTICAL BAR
    1 ALARM CLOCK
    1 STOPWATCH
    1 TIMER CLOCK
    1 HOURGLASS WITH FLOWING SAND
    1 BLACK MEDIUM LEFT-POINTING TRIANGLE
    1 BLACK MEDIUM RIGHT-POINTING TRIANGLE
    1 BLACK MEDIUM UP-POINTING TRIANGLE
    1 BLACK MEDIUM DOWN-POINTING TRIANGLE
    1 DOUBLE VERTICAL BAR
    1 BLACK SQUARE FOR STOP
    1 BLACK CIRCLE FOR RECORD
    1 POWER SYMBOL
    1 POWER ON-OFF SYMBOL
    1 POWER ON SYMBOL
    1 POWER SLEEP SYMBOL
    1 OBSERVER EYE SYMBOL
    61 CIRCLED DIGIT ONE
    1 CIRCLED DIGIT TWO
    1 CIRCLED DIGIT THREE
    1 CIRCLED DIGIT FOUR
    1 CIRCLED DIGIT FIVE
    1 CIRCLED DIGIT SIX
    1 CIRCLED DIGIT SEVEN
    1 CIRCLED DIGIT EIGHT
    1 CIRCLED DIGIT NINE
    1 CIRCLED NUMBER TEN
    1 CIRCLED NUMBER ELEVEN
    1 CIRCLED NUMBER TWELVE
    1 CIRCLED NUMBER THIRTEEN
    1 CIRCLED NUMBER FOURTEEN
    1 CIRCLED NUMBER FIFTEEN
    1 CIRCLED NUMBER SIXTEEN
    1 CIRCLED NUMBER SEVENTEEN
    1 CIRCLED NUMBER EIGHTEEN
    1 CIRCLED NUMBER NINETEEN
    1 CIRCLED NUMBER TWENTY
    1 PARENTHESIZED DIGIT ONE
    1 PARENTHESIZED DIGIT TWO
    1 PARENTHESIZED DIGIT THREE
    1 PARENTHESIZED DIGIT FOUR
    1 PARENTHESIZED DIGIT FIVE
    1 PARENTHESIZED DIGIT SIX
    1 PARENTHESIZED DIGIT SEVEN
    1 PARENTHESIZED DIGIT EIGHT
    1 PARENTHESIZED DIGIT NINE
    1 PARENTHESIZED NUMBER TEN
    1 PARENTHESIZED NUMBER ELEVEN
    1 PARENTHESIZED NUMBER TWELVE
    1 PARENTHESIZED NUMBER THIRTEEN
    1 PARENTHESIZED NUMBER FOURTEEN
    1 PARENTHESIZED NUMBER FIFTEEN
    1 PARENTHESIZED NUMBER SIXTEEN
    1 PARENTHESIZED NUMBER SEVENTEEN
    1 PARENTHESIZED NUMBER EIGHTEEN
    1 PARENTHESIZED NUMBER NINETEEN
    1 PARENTHESIZED NUMBER TWENTY
    1 DIGIT ONE FULL STOP
    1 DIGIT TWO FULL STOP
    1 DIGIT THREE FULL STOP
    1 DIGIT FOUR FULL STOP
    1 DIGIT FIVE FULL STOP
    1 DIGIT SIX FULL STOP
    1 DIGIT SEVEN FULL STOP
    1 DIGIT EIGHT FULL STOP
    1 DIGIT NINE FULL STOP
    1 NUMBER TEN FULL STOP
    1 NUMBER ELEVEN FULL STOP
    1 NUMBER TWELVE FULL STOP
    1 NUMBER THIRTEEN FULL STOP
    1 NUMBER FOURTEEN FULL STOP
    1 NUMBER FIFTEEN FULL STOP
    1 NUMBER SIXTEEN FULL STOP
    1 NUMBER SEVENTEEN FULL STOP
    1 NUMBER EIGHTEEN FULL STOP
    1 NUMBER NINETEEN FULL STOP
    1 NUMBER TWENTY FULL STOP
    1 PARENTHESIZED LATIN SMALL LETTER A
    1 PARENTHESIZED LATIN SMALL LETTER B
    1 PARENTHESIZED LATIN SMALL LETTER C
    1 PARENTHESIZED LATIN SMALL LETTER D
    1 PARENTHESIZED LATIN SMALL LETTER E
    1 PARENTHESIZED LATIN SMALL LETTER F
    1 PARENTHESIZED LATIN SMALL LETTER G
    1 PARENTHESIZED LATIN SMALL LETTER H
    1 PARENTHESIZED LATIN SMALL LETTER I
    1 PARENTHESIZED LATIN SMALL LETTER J
    1 PARENTHESIZED LATIN SMALL LETTER K
    1 PARENTHESIZED LATIN SMALL LETTER L
    1 PARENTHESIZED LATIN SMALL LETTER M
    1 PARENTHESIZED LATIN SMALL LETTER N
    1 PARENTHESIZED LATIN SMALL LETTER O
    1 PARENTHESIZED LATIN SMALL LETTER P
    1 PARENTHESIZED LATIN SMALL LETTER Q
    1 PARENTHESIZED LATIN SMALL LETTER R
    1 PARENTHESIZED LATIN SMALL LETTER S
    1 PARENTHESIZED LATIN SMALL LETTER T
    1 PARENTHESIZED LATIN SMALL LETTER U
    1 PARENTHESIZED LATIN SMALL LETTER V
    1 PARENTHESIZED LATIN SMALL LETTER W
    1 PARENTHESIZED LATIN SMALL LETTER X
    1 PARENTHESIZED LATIN SMALL LETTER Y
    1 PARENTHESIZED LATIN SMALL LETTER Z
    1 CIRCLED LATIN CAPITAL LETTER A
    1 CIRCLED LATIN CAPITAL LETTER B
    1 CIRCLED LATIN CAPITAL LETTER C
    1 CIRCLED LATIN CAPITAL LETTER D
    1 CIRCLED LATIN CAPITAL LETTER E
    1 CIRCLED LATIN CAPITAL LETTER F
    1 CIRCLED LATIN CAPITAL LETTER G
    1 CIRCLED LATIN CAPITAL LETTER H
    1 CIRCLED LATIN CAPITAL LETTER I
    1 CIRCLED LATIN CAPITAL LETTER J
    1 CIRCLED LATIN CAPITAL LETTER K
    1 CIRCLED LATIN CAPITAL LETTER L
    1 CIRCLED LATIN CAPITAL LETTER M
    1 CIRCLED LATIN CAPITAL LETTER N
    1 CIRCLED LATIN CAPITAL LETTER O
    1 CIRCLED LATIN CAPITAL LETTER P
    1 CIRCLED LATIN CAPITAL LETTER Q
    1 CIRCLED LATIN CAPITAL LETTER R
    1 CIRCLED LATIN CAPITAL LETTER S
    1 CIRCLED LATIN CAPITAL LETTER T
    1 CIRCLED LATIN CAPITAL LETTER U
    1 CIRCLED LATIN CAPITAL LETTER V
    1 CIRCLED LATIN CAPITAL LETTER W
    1 CIRCLED LATIN CAPITAL LETTER X
    1 CIRCLED LATIN CAPITAL LETTER Y
    1 CIRCLED LATIN CAPITAL LETTER Z
    1 CIRCLED LATIN SMALL LETTER A
    1 CIRCLED LATIN SMALL LETTER B
    1 CIRCLED LATIN SMALL LETTER C
    1 CIRCLED LATIN SMALL LETTER D
    1 CIRCLED LATIN SMALL LETTER E
    1 CIRCLED LATIN SMALL LETTER F
    1 CIRCLED LATIN SMALL LETTER G
    1 CIRCLED LATIN SMALL LETTER H
    1 CIRCLED LATIN SMALL LETTER I
    1 CIRCLED LATIN SMALL LETTER J
    1 CIRCLED LATIN SMALL LETTER K
    1 CIRCLED LATIN SMALL LETTER L
    1 CIRCLED LATIN SMALL LETTER M
    1 CIRCLED LATIN SMALL LETTER N
    1 CIRCLED LATIN SMALL LETTER O
    1 CIRCLED LATIN SMALL LETTER P
    1 CIRCLED LATIN SMALL LETTER Q
    1 CIRCLED LATIN SMALL LETTER R
    1 CIRCLED LATIN SMALL LETTER S
    1 CIRCLED LATIN SMALL LETTER T
    1 CIRCLED LATIN SMALL LETTER U
    1 CIRCLED LATIN SMALL LETTER V
    1 CIRCLED LATIN SMALL LETTER W
    1 CIRCLED LATIN SMALL LETTER X
    1 CIRCLED LATIN SMALL LETTER Y
    1 CIRCLED LATIN SMALL LETTER Z
    1 CIRCLED DIGIT ZERO
    1 NEGATIVE CIRCLED NUMBER ELEVEN
    1 NEGATIVE CIRCLED NUMBER TWELVE
    1 NEGATIVE CIRCLED NUMBER THIRTEEN
    1 NEGATIVE CIRCLED NUMBER FOURTEEN
    1 NEGATIVE CIRCLED NUMBER FIFTEEN
    1 NEGATIVE CIRCLED NUMBER SIXTEEN
    1 NEGATIVE CIRCLED NUMBER SEVENTEEN
    1 NEGATIVE CIRCLED NUMBER EIGHTEEN
    1 NEGATIVE CIRCLED NUMBER NINETEEN
    1 NEGATIVE CIRCLED NUMBER TWENTY
    1 DOUBLE CIRCLED DIGIT ONE
    1 DOUBLE CIRCLED DIGIT TWO
    1 DOUBLE CIRCLED DIGIT THREE
    1 DOUBLE CIRCLED DIGIT FOUR
    1 DOUBLE CIRCLED DIGIT FIVE
    1 DOUBLE CIRCLED DIGIT SIX
    1 DOUBLE CIRCLED DIGIT SEVEN
    1 DOUBLE CIRCLED DIGIT EIGHT
    1 DOUBLE CIRCLED DIGIT NINE
    1 DOUBLE CIRCLED NUMBER TEN
    1 NEGATIVE CIRCLED DIGIT ZERO
    1 BOX DRAWINGS LIGHT HORIZONTAL
    1 BOX DRAWINGS HEAVY HORIZONTAL
    1 BOX DRAWINGS LIGHT VERTICAL
    1 BOX DRAWINGS HEAVY VERTICAL
    1 BOX DRAWINGS LIGHT TRIPLE DASH HORIZONTAL
    1 BOX DRAWINGS HEAVY TRIPLE DASH HORIZONTAL
    1 BOX DRAWINGS LIGHT TRIPLE DASH VERTICAL
    1 BOX DRAWINGS HEAVY TRIPLE DASH VERTICAL
    1 BOX DRAWINGS LIGHT QUADRUPLE DASH HORIZONTAL
    1 BOX DRAWINGS HEAVY QUADRUPLE DASH HORIZONTAL
    1 BOX DRAWINGS LIGHT QUADRUPLE DASH VERTICAL
    1 BOX DRAWINGS HEAVY QUADRUPLE DASH VERTICAL
    1 BOX DRAWINGS LIGHT DOWN AND RIGHT
    1 BOX DRAWINGS DOWN LIGHT AND RIGHT HEAVY
    1 BOX DRAWINGS DOWN HEAVY AND RIGHT LIGHT
    1 BOX DRAWINGS HEAVY DOWN AND RIGHT
    1 BOX DRAWINGS LIGHT DOWN AND LEFT
    1 BOX DRAWINGS DOWN LIGHT AND LEFT HEAVY
    1 BOX DRAWINGS DOWN HEAVY AND LEFT LIGHT
    1 BOX DRAWINGS HEAVY DOWN AND LEFT
    1 BOX DRAWINGS LIGHT UP AND RIGHT
    1 BOX DRAWINGS UP LIGHT AND RIGHT HEAVY
    1 BOX DRAWINGS UP HEAVY AND RIGHT LIGHT
    1 BOX DRAWINGS HEAVY UP AND RIGHT
    1 BOX DRAWINGS LIGHT UP AND LEFT
    1 BOX DRAWINGS UP LIGHT AND LEFT HEAVY
    1 BOX DRAWINGS UP HEAVY AND LEFT LIGHT
    1 BOX DRAWINGS HEAVY UP AND LEFT
    1 BOX DRAWINGS LIGHT VERTICAL AND RIGHT
    1 BOX DRAWINGS VERTICAL LIGHT AND RIGHT HEAVY
    1 BOX DRAWINGS UP HEAVY AND RIGHT DOWN LIGHT
    1 BOX DRAWINGS DOWN HEAVY AND RIGHT UP LIGHT
    1 BOX DRAWINGS VERTICAL HEAVY AND RIGHT LIGHT
    1 BOX DRAWINGS DOWN LIGHT AND RIGHT UP HEAVY
    1 BOX DRAWINGS UP LIGHT AND RIGHT DOWN HEAVY
    1 BOX DRAWINGS HEAVY VERTICAL AND RIGHT
    1 BOX DRAWINGS LIGHT VERTICAL AND LEFT
    1 BOX DRAWINGS VERTICAL LIGHT AND LEFT HEAVY
    1 BOX DRAWINGS UP HEAVY AND LEFT DOWN LIGHT
    1 BOX DRAWINGS DOWN HEAVY AND LEFT UP LIGHT
    1 BOX DRAWINGS VERTICAL HEAVY AND LEFT LIGHT
    1 BOX DRAWINGS DOWN LIGHT AND LEFT UP HEAVY
    1 BOX DRAWINGS UP LIGHT AND LEFT DOWN HEAVY
    1 BOX DRAWINGS HEAVY VERTICAL AND LEFT
    1 BOX DRAWINGS LIGHT DOWN AND HORIZONTAL
    1 BOX DRAWINGS LEFT HEAVY AND RIGHT DOWN LIGHT
    1 BOX DRAWINGS RIGHT HEAVY AND LEFT DOWN LIGHT
    1 BOX DRAWINGS DOWN LIGHT AND HORIZONTAL HEAVY
    1 BOX DRAWINGS DOWN HEAVY AND HORIZONTAL LIGHT
    1 BOX DRAWINGS RIGHT LIGHT AND LEFT DOWN HEAVY
    1 BOX DRAWINGS LEFT LIGHT AND RIGHT DOWN HEAVY
    1 BOX DRAWINGS HEAVY DOWN AND HORIZONTAL
    1 BOX DRAWINGS LIGHT UP AND HORIZONTAL
    1 BOX DRAWINGS LEFT HEAVY AND RIGHT UP LIGHT
    1 BOX DRAWINGS RIGHT HEAVY AND LEFT UP LIGHT
    1 BOX DRAWINGS UP LIGHT AND HORIZONTAL HEAVY
    1 BOX DRAWINGS UP HEAVY AND HORIZONTAL LIGHT
    1 BOX DRAWINGS RIGHT LIGHT AND LEFT UP HEAVY
    1 BOX DRAWINGS LEFT LIGHT AND RIGHT UP HEAVY
    1 BOX DRAWINGS HEAVY UP AND HORIZONTAL
    1 BOX DRAWINGS LIGHT VERTICAL AND HORIZONTAL
    1 BOX DRAWINGS LEFT HEAVY AND RIGHT VERTICAL LIGHT
    1 BOX DRAWINGS RIGHT HEAVY AND LEFT VERTICAL LIGHT
    1 BOX DRAWINGS VERTICAL LIGHT AND HORIZONTAL HEAVY
    1 BOX DRAWINGS UP HEAVY AND DOWN HORIZONTAL LIGHT
    1 BOX DRAWINGS DOWN HEAVY AND UP HORIZONTAL LIGHT
    1 BOX DRAWINGS VERTICAL HEAVY AND HORIZONTAL LIGHT
    1 BOX DRAWINGS LEFT UP HEAVY AND RIGHT DOWN LIGHT
    1 BOX DRAWINGS RIGHT UP HEAVY AND LEFT DOWN LIGHT
    1 BOX DRAWINGS LEFT DOWN HEAVY AND RIGHT UP LIGHT
    1 BOX DRAWINGS RIGHT DOWN HEAVY AND LEFT UP LIGHT
    1 BOX DRAWINGS DOWN LIGHT AND UP HORIZONTAL HEAVY
    1 BOX DRAWINGS UP LIGHT AND DOWN HORIZONTAL HEAVY
    1 BOX DRAWINGS RIGHT LIGHT AND LEFT VERTICAL HEAVY
    1 BOX DRAWINGS LEFT LIGHT AND RIGHT VERTICAL HEAVY
    1 BOX DRAWINGS HEAVY VERTICAL AND HORIZONTAL
    1 BOX DRAWINGS LIGHT DOUBLE DASH HORIZONTAL
    1 BOX DRAWINGS HEAVY DOUBLE DASH HORIZONTAL
    1 BOX DRAWINGS LIGHT DOUBLE DASH VERTICAL
    1 BOX DRAWINGS HEAVY DOUBLE DASH VERTICAL
    1 BOX DRAWINGS DOUBLE HORIZONTAL
    1 BOX DRAWINGS DOUBLE VERTICAL
    1 BOX DRAWINGS DOWN SINGLE AND RIGHT DOUBLE
    1 BOX DRAWINGS DOWN DOUBLE AND RIGHT SINGLE
    1 BOX DRAWINGS DOUBLE DOWN AND RIGHT
    1 BOX DRAWINGS DOWN SINGLE AND LEFT DOUBLE
    1 BOX DRAWINGS DOWN DOUBLE AND LEFT SINGLE
    1 BOX DRAWINGS DOUBLE DOWN AND LEFT
    1 BOX DRAWINGS UP SINGLE AND RIGHT DOUBLE
    1 BOX DRAWINGS UP DOUBLE AND RIGHT SINGLE
    1 BOX DRAWINGS DOUBLE UP AND RIGHT
    1 BOX DRAWINGS UP SINGLE AND LEFT DOUBLE
    1 BOX DRAWINGS UP DOUBLE AND LEFT SINGLE
    1 BOX DRAWINGS DOUBLE UP AND LEFT
    1 BOX DRAWINGS VERTICAL SINGLE AND RIGHT DOUBLE
    1 BOX DRAWINGS VERTICAL DOUBLE AND RIGHT SINGLE
    1 BOX DRAWINGS DOUBLE VERTICAL AND RIGHT
    1 BOX DRAWINGS VERTICAL SINGLE AND LEFT DOUBLE
    1 BOX DRAWINGS VERTICAL DOUBLE AND LEFT SINGLE
    1 BOX DRAWINGS DOUBLE VERTICAL AND LEFT
    1 BOX DRAWINGS DOWN SINGLE AND HORIZONTAL DOUBLE
    1 BOX DRAWINGS DOWN DOUBLE AND HORIZONTAL SINGLE
    1 BOX DRAWINGS DOUBLE DOWN AND HORIZONTAL
    1 BOX DRAWINGS UP SINGLE AND HORIZONTAL DOUBLE
    1 BOX DRAWINGS UP DOUBLE AND HORIZONTAL SINGLE
    1 BOX DRAWINGS DOUBLE UP AND HORIZONTAL
    1 BOX DRAWINGS VERTICAL SINGLE AND HORIZONTAL DOUBLE
    1 BOX DRAWINGS VERTICAL DOUBLE AND HORIZONTAL SINGLE
    1 BOX DRAWINGS DOUBLE VERTICAL AND HORIZONTAL
    1 BOX DRAWINGS LIGHT ARC DOWN AND RIGHT
    1 BOX DRAWINGS LIGHT ARC DOWN AND LEFT
    1 BOX DRAWINGS LIGHT ARC UP AND LEFT
    1 BOX DRAWINGS LIGHT ARC UP AND RIGHT
    1 BOX DRAWINGS LIGHT DIAGONAL UPPER RIGHT TO LOWER LEFT
    1 BOX DRAWINGS LIGHT DIAGONAL UPPER LEFT TO LOWER RIGHT
    1 BOX DRAWINGS LIGHT DIAGONAL CROSS
    1 BOX DRAWINGS LIGHT LEFT
    1 BOX DRAWINGS LIGHT UP
    1 BOX DRAWINGS LIGHT RIGHT
    1 BOX DRAWINGS LIGHT DOWN
    1 BOX DRAWINGS HEAVY LEFT
    1 BOX DRAWINGS HEAVY UP
    1 BOX DRAWINGS HEAVY RIGHT
    1 BOX DRAWINGS HEAVY DOWN
    1 BOX DRAWINGS LIGHT LEFT AND HEAVY RIGHT
    1 BOX DRAWINGS LIGHT UP AND HEAVY DOWN
    1 BOX DRAWINGS HEAVY LEFT AND LIGHT RIGHT
    1 BOX DRAWINGS HEAVY UP AND LIGHT DOWN
    1 UPPER HALF BLOCK
    1 LOWER ONE EIGHTH BLOCK
    1 LOWER ONE QUARTER BLOCK
    1 LOWER THREE EIGHTHS BLOCK
    1 LOWER HALF BLOCK
    1 LOWER FIVE EIGHTHS BLOCK
    1 LOWER THREE QUARTERS BLOCK
    1 LOWER SEVEN EIGHTHS BLOCK
    1 FULL BLOCK
    1 LEFT SEVEN EIGHTHS BLOCK
    1 LEFT THREE QUARTERS BLOCK
    1 LEFT FIVE EIGHTHS BLOCK
    1 LEFT HALF BLOCK
    1 LEFT THREE EIGHTHS BLOCK
    1 LEFT ONE QUARTER BLOCK
    1 LEFT ONE EIGHTH BLOCK
    1 RIGHT HALF BLOCK
    1 LIGHT SHADE
    1 MEDIUM SHADE
    1 DARK SHADE
    1 UPPER ONE EIGHTH BLOCK
    1 RIGHT ONE EIGHTH BLOCK
    1 QUADRANT LOWER LEFT
    1 QUADRANT LOWER RIGHT
    1 QUADRANT UPPER LEFT
    1 QUADRANT UPPER LEFT AND LOWER LEFT AND LOWER RIGHT
    1 QUADRANT UPPER LEFT AND LOWER RIGHT
    1 QUADRANT UPPER LEFT AND UPPER RIGHT AND LOWER LEFT
    1 QUADRANT UPPER LEFT AND UPPER RIGHT AND LOWER RIGHT
    1 QUADRANT UPPER RIGHT
    1 QUADRANT UPPER RIGHT AND LOWER LEFT
    1 QUADRANT UPPER RIGHT AND LOWER LEFT AND LOWER RIGHT
    1 BLACK SQUARE
    1 WHITE SQUARE
    1 WHITE SQUARE WITH ROUNDED CORNERS
    1 WHITE SQUARE CONTAINING BLACK SMALL SQUARE
    1 SQUARE WITH HORIZONTAL FILL
    1 SQUARE WITH VERTICAL FILL
    1 SQUARE WITH ORTHOGONAL CROSSHATCH FILL
    1 SQUARE WITH UPPER LEFT TO LOWER RIGHT FILL
    1 SQUARE WITH UPPER RIGHT TO LOWER LEFT FILL
    1 SQUARE WITH DIAGONAL CROSSHATCH FILL
    1 BLACK SMALL SQUARE
    1 WHITE SMALL SQUARE
    1 BLACK RECTANGLE
    1 WHITE RECTANGLE
    1 BLACK VERTICAL RECTANGLE
    1 WHITE VERTICAL RECTANGLE
    1 BLACK PARALLELOGRAM
    1 WHITE PARALLELOGRAM
    1 BLACK UP-POINTING TRIANGLE
    1 WHITE UP-POINTING TRIANGLE
    1 BLACK UP-POINTING SMALL TRIANGLE
    1 WHITE UP-POINTING SMALL TRIANGLE
    1 BLACK RIGHT-POINTING TRIANGLE
    1 WHITE RIGHT-POINTING TRIANGLE
    1 BLACK RIGHT-POINTING SMALL TRIANGLE
    1 WHITE RIGHT-POINTING SMALL TRIANGLE
    1 BLACK RIGHT-POINTING POINTER
    1 WHITE RIGHT-POINTING POINTER
    1 BLACK DOWN-POINTING TRIANGLE
    1 WHITE DOWN-POINTING TRIANGLE
    1 BLACK DOWN-POINTING SMALL TRIANGLE
    1 WHITE DOWN-POINTING SMALL TRIANGLE
    1 BLACK LEFT-POINTING TRIANGLE
    1 WHITE LEFT-POINTING TRIANGLE
    1 BLACK LEFT-POINTING SMALL TRIANGLE
    1 WHITE LEFT-POINTING SMALL TRIANGLE
    1 BLACK LEFT-POINTING POINTER
    1 WHITE LEFT-POINTING POINTER
    1 BLACK DIAMOND
    1 WHITE DIAMOND
    1 WHITE DIAMOND CONTAINING BLACK SMALL DIAMOND
    1 FISHEYE
    1 LOZENGE
    1 WHITE CIRCLE
    1 DOTTED CIRCLE
    1 CIRCLE WITH VERTICAL FILL
    1 BULLSEYE
    1 BLACK CIRCLE
    1 CIRCLE WITH LEFT HALF BLACK
    1 CIRCLE WITH RIGHT HALF BLACK
    1 CIRCLE WITH LOWER HALF BLACK
    1 CIRCLE WITH UPPER HALF BLACK
    1 CIRCLE WITH UPPER RIGHT QUADRANT BLACK
    1 CIRCLE WITH ALL BUT UPPER LEFT QUADRANT BLACK
    1 LEFT HALF BLACK CIRCLE
    1 RIGHT HALF BLACK CIRCLE
    1 INVERSE BULLET
    1 INVERSE WHITE CIRCLE
    1 UPPER HALF INVERSE WHITE CIRCLE
    1 LOWER HALF INVERSE WHITE CIRCLE
    1 UPPER LEFT QUADRANT CIRCULAR ARC
    1 UPPER RIGHT QUADRANT CIRCULAR ARC
    1 LOWER RIGHT QUADRANT CIRCULAR ARC
    1 LOWER LEFT QUADRANT CIRCULAR ARC
    1 UPPER HALF CIRCLE
    1 LOWER HALF CIRCLE
    1 BLACK LOWER RIGHT TRIANGLE
    1 BLACK LOWER LEFT TRIANGLE
    1 BLACK UPPER LEFT TRIANGLE
    1 BLACK UPPER RIGHT TRIANGLE
    1 WHITE BULLET
    1 SQUARE WITH LEFT HALF BLACK
    1 SQUARE WITH RIGHT HALF BLACK
    1 SQUARE WITH UPPER LEFT DIAGONAL HALF BLACK
    1 SQUARE WITH LOWER RIGHT DIAGONAL HALF BLACK
    1 WHITE SQUARE WITH VERTICAL BISECTING LINE
    1 WHITE UP-POINTING TRIANGLE WITH DOT
    1 UP-POINTING TRIANGLE WITH LEFT HALF BLACK
    1 UP-POINTING TRIANGLE WITH RIGHT HALF BLACK
    1 LARGE CIRCLE
    1 WHITE SQUARE WITH UPPER LEFT QUADRANT
    1 WHITE SQUARE WITH LOWER LEFT QUADRANT
    1 WHITE SQUARE WITH LOWER RIGHT QUADRANT
    1 WHITE SQUARE WITH UPPER RIGHT QUADRANT
    1 WHITE CIRCLE WITH UPPER LEFT QUADRANT
    1 WHITE CIRCLE WITH LOWER LEFT QUADRANT
    1 WHITE CIRCLE WITH LOWER RIGHT QUADRANT
    1 WHITE CIRCLE WITH UPPER RIGHT QUADRANT
    1 UPPER LEFT TRIANGLE
    1 UPPER RIGHT TRIANGLE
    1 LOWER LEFT TRIANGLE
    1 WHITE MEDIUM SQUARE
    1 BLACK MEDIUM SQUARE
    1 WHITE MEDIUM SMALL SQUARE
    1 BLACK MEDIUM SMALL SQUARE
    1 LOWER RIGHT TRIANGLE
    1 BLACK SUN WITH RAYS
    1 CLOUD
    1 UMBRELLA
    1 SNOWMAN
    1 COMET
    1 BLACK STAR
    1 WHITE STAR
    1 LIGHTNING
    1 THUNDERSTORM
    1 SUN
    1 ASCENDING NODE
    1 DESCENDING NODE
    1 CONJUNCTION
    1 OPPOSITION
    1 BLACK TELEPHONE
    1 WHITE TELEPHONE
    1 BALLOT BOX
    1 BALLOT BOX WITH CHECK
    1 BALLOT BOX WITH X
    1 SALTIRE
    1 UMBRELLA WITH RAIN DROPS
    1 HOT BEVERAGE
    1 WHITE SHOGI PIECE
    1 BLACK SHOGI PIECE
    1 SHAMROCK
    1 REVERSED ROTATED FLORAL HEART BULLET
    1 BLACK LEFT POINTING INDEX
    1 BLACK RIGHT POINTING INDEX
    1 WHITE LEFT POINTING INDEX
    1 WHITE UP POINTING INDEX
    1 WHITE RIGHT POINTING INDEX
    1 WHITE DOWN POINTING INDEX
    1 SKULL AND CROSSBONES
    1 CAUTION SIGN
    1 RADIOACTIVE SIGN
    1 BIOHAZARD SIGN
    1 CADUCEUS
    1 ANKH
    1 ORTHODOX CROSS
    1 CHI RHO
    1 CROSS OF LORRAINE
    1 CROSS OF JERUSALEM
    1 STAR AND CRESCENT
    1 FARSI SYMBOL
    1 ADI SHAKTI
    1 HAMMER AND SICKLE
    1 PEACE SYMBOL
    1 YIN YANG
    1 TRIGRAM FOR HEAVEN
    1 TRIGRAM FOR LAKE
    1 TRIGRAM FOR FIRE
    1 TRIGRAM FOR THUNDER
    1 TRIGRAM FOR WIND
    1 TRIGRAM FOR WATER
    1 TRIGRAM FOR MOUNTAIN
    1 TRIGRAM FOR EARTH
    1 WHEEL OF DHARMA
    1 WHITE FROWNING FACE
    1 WHITE SMILING FACE
    1 BLACK SMILING FACE
    1 WHITE SUN WITH RAYS
    1 FIRST QUARTER MOON
    1 LAST QUARTER MOON
    1 MERCURY
    1 FEMALE SIGN
    1 EARTH
    1 MALE SIGN
    1 JUPITER
    1 SATURN
    1 URANUS
    1 NEPTUNE
    1 PLUTO
    1 ARIES
    1 TAURUS
    1 GEMINI
    1 CANCER
    1 LEO
    1 VIRGO
    1 LIBRA
    1 SCORPIUS
    1 SAGITTARIUS
    1 CAPRICORN
    1 AQUARIUS
    1 PISCES
    1 WHITE CHESS KING
    1 WHITE CHESS QUEEN
    1 WHITE CHESS ROOK
    1 WHITE CHESS BISHOP
    1 WHITE CHESS KNIGHT
    1 WHITE CHESS PAWN
    1 BLACK CHESS KING
    1 BLACK CHESS QUEEN
    1 BLACK CHESS ROOK
    1 BLACK CHESS BISHOP
    1 BLACK CHESS KNIGHT
    1 BLACK CHESS PAWN
    1 BLACK SPADE SUIT
    1 WHITE HEART SUIT
    1 WHITE DIAMOND SUIT
    1 BLACK CLUB SUIT
    1 WHITE SPADE SUIT
    1 BLACK HEART SUIT
    1 BLACK DIAMOND SUIT
    1 WHITE CLUB SUIT
    1 HOT SPRINGS
    1 QUARTER NOTE
    1 EIGHTH NOTE
    1 BEAMED EIGHTH NOTES
    1 BEAMED SIXTEENTH NOTES
    1 MUSIC FLAT SIGN
    1 MUSIC NATURAL SIGN
    1 MUSIC SHARP SIGN
    1 WEST SYRIAC CROSS
    1 EAST SYRIAC CROSS
    1 UNIVERSAL RECYCLING SYMBOL
    1 RECYCLING SYMBOL FOR TYPE-1 PLASTICS
    1 RECYCLING SYMBOL FOR TYPE-2 PLASTICS
    1 RECYCLING SYMBOL FOR TYPE-3 PLASTICS
    1 RECYCLING SYMBOL FOR TYPE-4 PLASTICS
    1 RECYCLING SYMBOL FOR TYPE-5 PLASTICS
    1 RECYCLING SYMBOL FOR TYPE-6 PLASTICS
    1 RECYCLING SYMBOL FOR TYPE-7 PLASTICS
    1 RECYCLING SYMBOL FOR GENERIC MATERIALS
    1 BLACK UNIVERSAL RECYCLING SYMBOL
    1 RECYCLED PAPER SYMBOL
    1 PARTIALLY-RECYCLED PAPER SYMBOL
    1 PERMANENT PAPER SIGN
    1 WHEELCHAIR SYMBOL
    1 DIE FACE-1
    1 DIE FACE-2
    1 DIE FACE-3
    1 DIE FACE-4
    1 DIE FACE-5
    1 DIE FACE-6
    1 WHITE CIRCLE WITH DOT RIGHT
    1 WHITE CIRCLE WITH TWO DOTS
    1 BLACK CIRCLE WITH WHITE DOT RIGHT
    1 BLACK CIRCLE WITH TWO WHITE DOTS
    1 MONOGRAM FOR YANG
    1 MONOGRAM FOR YIN
    1 DIGRAM FOR GREATER YANG
    1 DIGRAM FOR LESSER YIN
    1 DIGRAM FOR LESSER YANG
    1 DIGRAM FOR GREATER YIN
    1 WHITE FLAG
    1 BLACK FLAG
    1 HAMMER AND PICK
    1 ANCHOR
    1 CROSSED SWORDS
    1 STAFF OF AESCULAPIUS
    1 SCALES
    1 ALEMBIC
    1 FLOWER
    1 GEAR
    1 STAFF OF HERMES
    1 ATOM SYMBOL
    1 FLEUR-DE-LIS
    1 OUTLINED WHITE STAR
    1 THREE LINES CONVERGING RIGHT
    1 THREE LINES CONVERGING LEFT
    1 WARNING SIGN
    1 HIGH VOLTAGE SIGN
    1 DOUBLED FEMALE SIGN
    1 DOUBLED MALE SIGN
    1 INTERLOCKED FEMALE AND MALE SIGN
    1 MALE AND FEMALE SIGN
    1 MALE WITH STROKE SIGN
    1 MALE WITH STROKE AND MALE AND FEMALE SIGN
    1 VERTICAL MALE WITH STROKE SIGN
    1 HORIZONTAL MALE WITH STROKE SIGN
    1 MEDIUM WHITE CIRCLE
    1 MEDIUM BLACK CIRCLE
    1 MEDIUM SMALL WHITE CIRCLE
    1 MARRIAGE SYMBOL
    1 DIVORCE SYMBOL
    1 UNMARRIED PARTNERSHIP SYMBOL
    1 COFFIN
    1 FUNERAL URN
    1 NEUTER
    1 CERES
    1 PALLAS
    1 JUNO
    1 VESTA
    1 CHIRON
    1 BLACK MOON LILITH
    1 SEXTILE
    1 SEMISEXTILE
    1 QUINCUNX
    1 SESQUIQUADRATE
    1 SOCCER BALL
    1 BASEBALL
    1 SQUARED KEY
    1 WHITE DRAUGHTS MAN
    1 WHITE DRAUGHTS KING
    1 BLACK DRAUGHTS MAN
    1 BLACK DRAUGHTS KING
    1 SNOWMAN WITHOUT SNOW
    1 SUN BEHIND CLOUD
    1 RAIN
    1 BLACK SNOWMAN
    1 THUNDER CLOUD AND RAIN
    1 TURNED WHITE SHOGI PIECE
    1 TURNED BLACK SHOGI PIECE
    1 WHITE DIAMOND IN SQUARE
    1 CROSSING LANES
    1 DISABLED CAR
    1 OPHIUCHUS
    1 PICK
    1 CAR SLIDING
    1 HELMET WITH WHITE CROSS
    1 CIRCLED CROSSING LANES
    1 CHAINS
    1 NO ENTRY
    1 ALTERNATE ONE-WAY LEFT WAY TRAFFIC
    1 BLACK TWO-WAY LEFT WAY TRAFFIC
    1 WHITE TWO-WAY LEFT WAY TRAFFIC
    1 BLACK LEFT LANE MERGE
    1 WHITE LEFT LANE MERGE
    1 DRIVE SLOW SIGN
    1 HEAVY WHITE DOWN-POINTING TRIANGLE
    1 LEFT CLOSED ENTRY
    1 SQUARED SALTIRE
    1 FALLING DIAGONAL IN WHITE CIRCLE IN BLACK SQUARE
    1 BLACK TRUCK
    1 RESTRICTED LEFT ENTRY-1
    1 RESTRICTED LEFT ENTRY-2
    1 ASTRONOMICAL SYMBOL FOR URANUS
    1 HEAVY CIRCLE WITH STROKE AND TWO DOTS ABOVE
    1 PENTAGRAM
    1 RIGHT-HANDED INTERLACED PENTAGRAM
    1 LEFT-HANDED INTERLACED PENTAGRAM
    1 INVERTED PENTAGRAM
    1 BLACK CROSS ON SHIELD
    1 SHINTO SHRINE
    1 CHURCH
    1 CASTLE
    1 HISTORIC SITE
    1 GEAR WITHOUT HUB
    1 GEAR WITH HANDLES
    1 MAP SYMBOL FOR LIGHTHOUSE
    1 MOUNTAIN
    1 UMBRELLA ON GROUND
    1 FOUNTAIN
    1 FLAG IN HOLE
    1 FERRY
    1 SAILBOAT
    1 SQUARE FOUR CORNERS
    1 SKIER
    1 ICE SKATE
    1 PERSON WITH BALL
    1 TENT
    1 JAPANESE BANK SYMBOL
    1 HEADSTONE GRAVEYARD SYMBOL
    1 FUEL PUMP
    1 CUP ON BLACK SQUARE
    1 WHITE FLAG WITH HORIZONTAL MIDDLE BLACK STRIPE
    1 BLACK SAFETY SCISSORS
    1 UPPER BLADE SCISSORS
    1 BLACK SCISSORS
    1 LOWER BLADE SCISSORS
    1 WHITE SCISSORS
    1 WHITE HEAVY CHECK MARK
    1 TELEPHONE LOCATION SIGN
    1 TAPE DRIVE
    1 AIRPLANE
    1 ENVELOPE
    1 RAISED FIST
    1 RAISED HAND
    1 VICTORY HAND
    1 WRITING HAND
    1 LOWER RIGHT PENCIL
    1 PENCIL
    1 UPPER RIGHT PENCIL
    1 WHITE NIB
    1 BLACK NIB
    1 CHECK MARK
    1 HEAVY CHECK MARK
    1 MULTIPLICATION X
    1 HEAVY MULTIPLICATION X
    1 BALLOT X
    1 HEAVY BALLOT X
    1 OUTLINED GREEK CROSS
    1 HEAVY GREEK CROSS
    1 OPEN CENTRE CROSS
    1 HEAVY OPEN CENTRE CROSS
    1 LATIN CROSS
    1 SHADOWED WHITE LATIN CROSS
    1 OUTLINED LATIN CROSS
    1 MALTESE CROSS
    1 STAR OF DAVID
    1 FOUR TEARDROP-SPOKED ASTERISK
    1 FOUR BALLOON-SPOKED ASTERISK
    1 HEAVY FOUR BALLOON-SPOKED ASTERISK
    1 FOUR CLUB-SPOKED ASTERISK
    1 BLACK FOUR POINTED STAR
    1 WHITE FOUR POINTED STAR
    1 SPARKLES
    1 STRESS OUTLINED WHITE STAR
    1 CIRCLED WHITE STAR
    1 OPEN CENTRE BLACK STAR
    1 BLACK CENTRE WHITE STAR
    1 OUTLINED BLACK STAR
    1 HEAVY OUTLINED BLACK STAR
    1 PINWHEEL STAR
    1 SHADOWED WHITE STAR
    1 HEAVY ASTERISK
    1 OPEN CENTRE ASTERISK
    1 EIGHT SPOKED ASTERISK
    1 EIGHT POINTED BLACK STAR
    1 EIGHT POINTED PINWHEEL STAR
    1 SIX POINTED BLACK STAR
    1 EIGHT POINTED RECTILINEAR BLACK STAR
    1 HEAVY EIGHT POINTED RECTILINEAR BLACK STAR
    1 TWELVE POINTED BLACK STAR
    1 SIXTEEN POINTED ASTERISK
    1 TEARDROP-SPOKED ASTERISK
    1 OPEN CENTRE TEARDROP-SPOKED ASTERISK
    1 HEAVY TEARDROP-SPOKED ASTERISK
    1 SIX PETALLED BLACK AND WHITE FLORETTE
    1 BLACK FLORETTE
    1 WHITE FLORETTE
    1 EIGHT PETALLED OUTLINED BLACK FLORETTE
    1 CIRCLED OPEN CENTRE EIGHT POINTED STAR
    1 HEAVY TEARDROP-SPOKED PINWHEEL ASTERISK
    1 SNOWFLAKE
    1 TIGHT TRIFOLIATE SNOWFLAKE
    1 HEAVY CHEVRON SNOWFLAKE
    1 SPARKLE
    1 HEAVY SPARKLE
    1 BALLOON-SPOKED ASTERISK
    1 EIGHT TEARDROP-SPOKED PROPELLER ASTERISK
    1 HEAVY EIGHT TEARDROP-SPOKED PROPELLER ASTERISK
    1 CROSS MARK
    1 SHADOWED WHITE CIRCLE
    1 NEGATIVE SQUARED CROSS MARK
    1 LOWER RIGHT DROP-SHADOWED WHITE SQUARE
    1 UPPER RIGHT DROP-SHADOWED WHITE SQUARE
    1 LOWER RIGHT SHADOWED WHITE SQUARE
    1 UPPER RIGHT SHADOWED WHITE SQUARE
    1 BLACK QUESTION MARK ORNAMENT
    1 WHITE QUESTION MARK ORNAMENT
    1 WHITE EXCLAMATION MARK ORNAMENT
    1 BLACK DIAMOND MINUS WHITE X
    1 HEAVY EXCLAMATION MARK SYMBOL
    1 LIGHT VERTICAL BAR
    1 MEDIUM VERTICAL BAR
    1 HEAVY VERTICAL BAR
    1 HEAVY SINGLE TURNED COMMA QUOTATION MARK ORNAMENT
    1 HEAVY SINGLE COMMA QUOTATION MARK ORNAMENT
    1 HEAVY DOUBLE TURNED COMMA QUOTATION MARK ORNAMENT
    1 HEAVY DOUBLE COMMA QUOTATION MARK ORNAMENT
    1 HEAVY LOW SINGLE COMMA QUOTATION MARK ORNAMENT
    1 HEAVY LOW DOUBLE COMMA QUOTATION MARK ORNAMENT
    1 CURVED STEM PARAGRAPH SIGN ORNAMENT
    1 HEAVY EXCLAMATION MARK ORNAMENT
    1 HEAVY HEART EXCLAMATION MARK ORNAMENT
    1 HEAVY BLACK HEART
    1 ROTATED HEAVY BLACK HEART BULLET
    1 FLORAL HEART
    1 ROTATED FLORAL HEART BULLET
    1 MEDIUM LEFT PARENTHESIS ORNAMENT
    1 MEDIUM RIGHT PARENTHESIS ORNAMENT
    1 MEDIUM FLATTENED LEFT PARENTHESIS ORNAMENT
    1 MEDIUM FLATTENED RIGHT PARENTHESIS ORNAMENT
    1 MEDIUM LEFT-POINTING ANGLE BRACKET ORNAMENT
    1 MEDIUM RIGHT-POINTING ANGLE BRACKET ORNAMENT
    1 HEAVY LEFT-POINTING ANGLE QUOTATION MARK ORNAMENT
    1 HEAVY RIGHT-POINTING ANGLE QUOTATION MARK ORNAMENT
    1 HEAVY LEFT-POINTING ANGLE BRACKET ORNAMENT
    1 HEAVY RIGHT-POINTING ANGLE BRACKET ORNAMENT
    1 LIGHT LEFT TORTOISE SHELL BRACKET ORNAMENT
    1 LIGHT RIGHT TORTOISE SHELL BRACKET ORNAMENT
    1 MEDIUM LEFT CURLY BRACKET ORNAMENT
    1 MEDIUM RIGHT CURLY BRACKET ORNAMENT
    1 DINGBAT NEGATIVE CIRCLED DIGIT ONE
    1 DINGBAT NEGATIVE CIRCLED DIGIT TWO
    1 DINGBAT NEGATIVE CIRCLED DIGIT THREE
    1 DINGBAT NEGATIVE CIRCLED DIGIT FOUR
    1 DINGBAT NEGATIVE CIRCLED DIGIT FIVE
    1 DINGBAT NEGATIVE CIRCLED DIGIT SIX
    1 DINGBAT NEGATIVE CIRCLED DIGIT SEVEN
    1 DINGBAT NEGATIVE CIRCLED DIGIT EIGHT
    1 DINGBAT NEGATIVE CIRCLED DIGIT NINE
    1 DINGBAT NEGATIVE CIRCLED NUMBER TEN
    1 DINGBAT CIRCLED SANS-SERIF DIGIT ONE
    1 DINGBAT CIRCLED SANS-SERIF DIGIT TWO
    1 DINGBAT CIRCLED SANS-SERIF DIGIT THREE
    1 DINGBAT CIRCLED SANS-SERIF DIGIT FOUR
    1 DINGBAT CIRCLED SANS-SERIF DIGIT FIVE
    1 DINGBAT CIRCLED SANS-SERIF DIGIT SIX
    1 DINGBAT CIRCLED SANS-SERIF DIGIT SEVEN
    1 DINGBAT CIRCLED SANS-SERIF DIGIT EIGHT
    1 DINGBAT CIRCLED SANS-SERIF DIGIT NINE
    1 DINGBAT CIRCLED SANS-SERIF NUMBER TEN
    1 DINGBAT NEGATIVE CIRCLED SANS-SERIF DIGIT ONE
    1 DINGBAT NEGATIVE CIRCLED SANS-SERIF DIGIT TWO
    1 DINGBAT NEGATIVE CIRCLED SANS-SERIF DIGIT THREE
    1 DINGBAT NEGATIVE CIRCLED SANS-SERIF DIGIT FOUR
    1 DINGBAT NEGATIVE CIRCLED SANS-SERIF DIGIT FIVE
    1 DINGBAT NEGATIVE CIRCLED SANS-SERIF DIGIT SIX
    1 DINGBAT NEGATIVE CIRCLED SANS-SERIF DIGIT SEVEN
    1 DINGBAT NEGATIVE CIRCLED SANS-SERIF DIGIT EIGHT
    1 DINGBAT NEGATIVE CIRCLED SANS-SERIF DIGIT NINE
    1 DINGBAT NEGATIVE CIRCLED SANS-SERIF NUMBER TEN
    1 HEAVY WIDE-HEADED RIGHTWARDS ARROW
    1 HEAVY PLUS SIGN
    1 HEAVY MINUS SIGN
    1 HEAVY DIVISION SIGN
    1 HEAVY SOUTH EAST ARROW
    1 HEAVY RIGHTWARDS ARROW
    1 HEAVY NORTH EAST ARROW
    1 DRAFTING POINT RIGHTWARDS ARROW
    1 HEAVY ROUND-TIPPED RIGHTWARDS ARROW
    1 TRIANGLE-HEADED RIGHTWARDS ARROW
    1 HEAVY TRIANGLE-HEADED RIGHTWARDS ARROW
    1 DASHED TRIANGLE-HEADED RIGHTWARDS ARROW
    1 HEAVY DASHED TRIANGLE-HEADED RIGHTWARDS ARROW
    1 BLACK RIGHTWARDS ARROW
    1 THREE-D TOP-LIGHTED RIGHTWARDS ARROWHEAD
    1 THREE-D BOTTOM-LIGHTED RIGHTWARDS ARROWHEAD
    1 BLACK RIGHTWARDS ARROWHEAD
    1 HEAVY BLACK CURVED DOWNWARDS AND RIGHTWARDS ARROW
    1 HEAVY BLACK CURVED UPWARDS AND RIGHTWARDS ARROW
    1 SQUAT BLACK RIGHTWARDS ARROW
    1 HEAVY CONCAVE-POINTED BLACK RIGHTWARDS ARROW
    1 RIGHT-SHADED WHITE RIGHTWARDS ARROW
    1 LEFT-SHADED WHITE RIGHTWARDS ARROW
    1 BACK-TILTED SHADOWED WHITE RIGHTWARDS ARROW
    1 FRONT-TILTED SHADOWED WHITE RIGHTWARDS ARROW
    1 HEAVY LOWER RIGHT-SHADOWED WHITE RIGHTWARDS ARROW
    1 HEAVY UPPER RIGHT-SHADOWED WHITE RIGHTWARDS ARROW
    1 NOTCHED LOWER RIGHT-SHADOWED WHITE RIGHTWARDS ARROW
    1 CURLY LOOP
    1 NOTCHED UPPER RIGHT-SHADOWED WHITE RIGHTWARDS ARROW
    1 CIRCLED HEAVY WHITE RIGHTWARDS ARROW
    1 WHITE-FEATHERED RIGHTWARDS ARROW
    1 BLACK-FEATHERED SOUTH EAST ARROW
    1 BLACK-FEATHERED RIGHTWARDS ARROW
    1 BLACK-FEATHERED NORTH EAST ARROW
    1 HEAVY BLACK-FEATHERED SOUTH EAST ARROW
    1 HEAVY BLACK-FEATHERED RIGHTWARDS ARROW
    1 HEAVY BLACK-FEATHERED NORTH EAST ARROW
    1 TEARDROP-BARBED RIGHTWARDS ARROW
    1 HEAVY TEARDROP-SHANKED RIGHTWARDS ARROW
    1 WEDGE-TAILED RIGHTWARDS ARROW
    1 HEAVY WEDGE-TAILED RIGHTWARDS ARROW
    1 OPEN-OUTLINED RIGHTWARDS ARROW
    1 DOUBLE CURLY LOOP
    1 THREE DIMENSIONAL ANGLE
    1 WHITE TRIANGLE CONTAINING SMALL WHITE TRIANGLE
    1 PERPENDICULAR
    1 OPEN SUBSET
    1 OPEN SUPERSET
    1 LEFT S-SHAPED BAG DELIMITER
    1 RIGHT S-SHAPED BAG DELIMITER
    1 OR WITH DOT INSIDE
    1 REVERSE SOLIDUS PRECEDING SUBSET
    1 SUPERSET PRECEDING SOLIDUS
    1 VERTICAL BAR WITH HORIZONTAL STROKE
    1 MATHEMATICAL RISING DIAGONAL
    1 LONG DIVISION
    1 MATHEMATICAL FALLING DIAGONAL
    1 SQUARED LOGICAL AND
    1 SQUARED LOGICAL OR
    1 WHITE DIAMOND WITH CENTRED DOT
    1 AND WITH DOT
    1 ELEMENT OF OPENING UPWARDS
    1 LOWER RIGHT CORNER WITH DOT
    1 UPPER LEFT CORNER WITH DOT
    1 LEFT OUTER JOIN
    1 RIGHT OUTER JOIN
    1 FULL OUTER JOIN
    1 LARGE UP TACK
    1 LARGE DOWN TACK
    1 LEFT AND RIGHT DOUBLE TURNSTILE
    1 LEFT AND RIGHT TACK
    1 LEFT MULTIMAP
    1 LONG RIGHT TACK
    1 LONG LEFT TACK
    1 UP TACK WITH CIRCLE ABOVE
    1 LOZENGE DIVIDED BY HORIZONTAL RULE
    1 WHITE CONCAVE-SIDED DIAMOND
    1 WHITE CONCAVE-SIDED DIAMOND WITH LEFTWARDS TICK
    1 WHITE CONCAVE-SIDED DIAMOND WITH RIGHTWARDS TICK
    1 WHITE SQUARE WITH LEFTWARDS TICK
    1 WHITE SQUARE WITH RIGHTWARDS TICK
    1 MATHEMATICAL LEFT WHITE SQUARE BRACKET
    1 MATHEMATICAL RIGHT WHITE SQUARE BRACKET
    1 MATHEMATICAL LEFT ANGLE BRACKET
    1 MATHEMATICAL RIGHT ANGLE BRACKET
    1 MATHEMATICAL LEFT DOUBLE ANGLE BRACKET
    1 MATHEMATICAL RIGHT DOUBLE ANGLE BRACKET
    1 MATHEMATICAL LEFT WHITE TORTOISE SHELL BRACKET
    1 MATHEMATICAL RIGHT WHITE TORTOISE SHELL BRACKET
    1 MATHEMATICAL LEFT FLATTENED PARENTHESIS
    1 MATHEMATICAL RIGHT FLATTENED PARENTHESIS
    1 UPWARDS QUADRUPLE ARROW
    1 DOWNWARDS QUADRUPLE ARROW
    1 ANTICLOCKWISE GAPPED CIRCLE ARROW
    1 CLOCKWISE GAPPED CIRCLE ARROW
    1 RIGHT ARROW WITH CIRCLED PLUS
    1 LONG LEFTWARDS ARROW
    1 LONG RIGHTWARDS ARROW
    1 LONG LEFT RIGHT ARROW
    1 LONG LEFTWARDS DOUBLE ARROW
    1 LONG RIGHTWARDS DOUBLE ARROW
    1 LONG LEFT RIGHT DOUBLE ARROW
    1 LONG LEFTWARDS ARROW FROM BAR
    1 LONG RIGHTWARDS ARROW FROM BAR
    1 LONG LEFTWARDS DOUBLE ARROW FROM BAR
    1 LONG RIGHTWARDS DOUBLE ARROW FROM BAR
    1 LONG RIGHTWARDS SQUIGGLE ARROW
    101 RIGHTWARDS TWO-HEADED ARROW WITH VERTICAL STROKE
    1 RIGHTWARDS TWO-HEADED ARROW WITH DOUBLE VERTICAL STROKE
    1 LEFTWARDS DOUBLE ARROW WITH VERTICAL STROKE
    1 RIGHTWARDS DOUBLE ARROW WITH VERTICAL STROKE
    1 LEFT RIGHT DOUBLE ARROW WITH VERTICAL STROKE
    1 RIGHTWARDS TWO-HEADED ARROW FROM BAR
    1 LEFTWARDS DOUBLE ARROW FROM BAR
    1 RIGHTWARDS DOUBLE ARROW FROM BAR
    1 DOWNWARDS ARROW WITH HORIZONTAL STROKE
    1 UPWARDS ARROW WITH HORIZONTAL STROKE
    1 UPWARDS TRIPLE ARROW
    1 DOWNWARDS TRIPLE ARROW
    1 LEFTWARDS DOUBLE DASH ARROW
    1 RIGHTWARDS DOUBLE DASH ARROW
    1 LEFTWARDS TRIPLE DASH ARROW
    1 RIGHTWARDS TRIPLE DASH ARROW
    1 RIGHTWARDS TWO-HEADED TRIPLE DASH ARROW
    1 RIGHTWARDS ARROW WITH DOTTED STEM
    1 UPWARDS ARROW TO BAR
    1 DOWNWARDS ARROW TO BAR
    1 RIGHTWARDS ARROW WITH TAIL WITH VERTICAL STROKE
    1 RIGHTWARDS ARROW WITH TAIL WITH DOUBLE VERTICAL STROKE
    1 RIGHTWARDS TWO-HEADED ARROW WITH TAIL
    1 RIGHTWARDS TWO-HEADED ARROW WITH TAIL WITH VERTICAL STROKE
    1 RIGHTWARDS TWO-HEADED ARROW WITH TAIL WITH DOUBLE VERTICAL STROKE
    1 LEFTWARDS ARROW-TAIL
    1 RIGHTWARDS ARROW-TAIL
    1 LEFTWARDS DOUBLE ARROW-TAIL
    1 RIGHTWARDS DOUBLE ARROW-TAIL
    1 LEFTWARDS ARROW TO BLACK DIAMOND
    1 RIGHTWARDS ARROW TO BLACK DIAMOND
    1 LEFTWARDS ARROW FROM BAR TO BLACK DIAMOND
    1 RIGHTWARDS ARROW FROM BAR TO BLACK DIAMOND
    1 NORTH WEST AND SOUTH EAST ARROW
    1 NORTH EAST AND SOUTH WEST ARROW
    1 NORTH WEST ARROW WITH HOOK
    1 NORTH EAST ARROW WITH HOOK
    1 SOUTH EAST ARROW WITH HOOK
    1 SOUTH WEST ARROW WITH HOOK
    1 NORTH WEST ARROW AND NORTH EAST ARROW
    1 NORTH EAST ARROW AND SOUTH EAST ARROW
    1 SOUTH EAST ARROW AND SOUTH WEST ARROW
    1 SOUTH WEST ARROW AND NORTH WEST ARROW
    1 RISING DIAGONAL CROSSING FALLING DIAGONAL
    1 FALLING DIAGONAL CROSSING RISING DIAGONAL
    1 SOUTH EAST ARROW CROSSING NORTH EAST ARROW
    1 NORTH EAST ARROW CROSSING SOUTH EAST ARROW
    1 FALLING DIAGONAL CROSSING NORTH EAST ARROW
    1 RISING DIAGONAL CROSSING SOUTH EAST ARROW
    1 NORTH EAST ARROW CROSSING NORTH WEST ARROW
    1 NORTH WEST ARROW CROSSING NORTH EAST ARROW
    1 WAVE ARROW POINTING DIRECTLY RIGHT
    1 ARROW POINTING RIGHTWARDS THEN CURVING UPWARDS
    1 ARROW POINTING RIGHTWARDS THEN CURVING DOWNWARDS
    1 ARROW POINTING DOWNWARDS THEN CURVING LEFTWARDS
    1 ARROW POINTING DOWNWARDS THEN CURVING RIGHTWARDS
    1 RIGHT-SIDE ARC CLOCKWISE ARROW
    1 LEFT-SIDE ARC ANTICLOCKWISE ARROW
    1 TOP ARC ANTICLOCKWISE ARROW
    1 BOTTOM ARC ANTICLOCKWISE ARROW
    1 TOP ARC CLOCKWISE ARROW WITH MINUS
    1 TOP ARC ANTICLOCKWISE ARROW WITH PLUS
    1 LOWER RIGHT SEMICIRCULAR CLOCKWISE ARROW
    1 LOWER LEFT SEMICIRCULAR ANTICLOCKWISE ARROW
    1 ANTICLOCKWISE CLOSED CIRCLE ARROW
    1 CLOCKWISE CLOSED CIRCLE ARROW
    1 RIGHTWARDS ARROW ABOVE SHORT LEFTWARDS ARROW
    1 LEFTWARDS ARROW ABOVE SHORT RIGHTWARDS ARROW
    1 SHORT RIGHTWARDS ARROW ABOVE LEFTWARDS ARROW
    1 RIGHTWARDS ARROW WITH PLUS BELOW
    1 LEFTWARDS ARROW WITH PLUS BELOW
    1 RIGHTWARDS ARROW THROUGH X
    1 LEFT RIGHT ARROW THROUGH SMALL CIRCLE
    1 UPWARDS TWO-HEADED ARROW FROM SMALL CIRCLE
    1 LEFT BARB UP RIGHT BARB DOWN HARPOON
    1 LEFT BARB DOWN RIGHT BARB UP HARPOON
    1 UP BARB RIGHT DOWN BARB LEFT HARPOON
    1 UP BARB LEFT DOWN BARB RIGHT HARPOON
    1 LEFT BARB UP RIGHT BARB UP HARPOON
    1 UP BARB RIGHT DOWN BARB RIGHT HARPOON
    1 LEFT BARB DOWN RIGHT BARB DOWN HARPOON
    1 UP BARB LEFT DOWN BARB LEFT HARPOON
    1 LEFTWARDS HARPOON WITH BARB UP TO BAR
    1 RIGHTWARDS HARPOON WITH BARB UP TO BAR
    1 UPWARDS HARPOON WITH BARB RIGHT TO BAR
    1 DOWNWARDS HARPOON WITH BARB RIGHT TO BAR
    1 LEFTWARDS HARPOON WITH BARB DOWN TO BAR
    1 RIGHTWARDS HARPOON WITH BARB DOWN TO BAR
    1 UPWARDS HARPOON WITH BARB LEFT TO BAR
    1 DOWNWARDS HARPOON WITH BARB LEFT TO BAR
    1 LEFTWARDS HARPOON WITH BARB UP FROM BAR
    1 RIGHTWARDS HARPOON WITH BARB UP FROM BAR
    1 UPWARDS HARPOON WITH BARB RIGHT FROM BAR
    1 DOWNWARDS HARPOON WITH BARB RIGHT FROM BAR
    1 LEFTWARDS HARPOON WITH BARB DOWN FROM BAR
    1 RIGHTWARDS HARPOON WITH BARB DOWN FROM BAR
    1 UPWARDS HARPOON WITH BARB LEFT FROM BAR
    1 DOWNWARDS HARPOON WITH BARB LEFT FROM BAR
    1 LEFTWARDS HARPOON WITH BARB UP ABOVE LEFTWARDS HARPOON WITH BARB DOWN
    1 UPWARDS HARPOON WITH BARB LEFT BESIDE UPWARDS HARPOON WITH BARB RIGHT
    1 RIGHTWARDS HARPOON WITH BARB UP ABOVE RIGHTWARDS HARPOON WITH BARB DOWN
    1 DOWNWARDS HARPOON WITH BARB LEFT BESIDE DOWNWARDS HARPOON WITH BARB RIGHT
    1 LEFTWARDS HARPOON WITH BARB UP ABOVE RIGHTWARDS HARPOON WITH BARB UP
    1 LEFTWARDS HARPOON WITH BARB DOWN ABOVE RIGHTWARDS HARPOON WITH BARB DOWN
    1 RIGHTWARDS HARPOON WITH BARB UP ABOVE LEFTWARDS HARPOON WITH BARB UP
    1 RIGHTWARDS HARPOON WITH BARB DOWN ABOVE LEFTWARDS HARPOON WITH BARB DOWN
    1 LEFTWARDS HARPOON WITH BARB UP ABOVE LONG DASH
    1 LEFTWARDS HARPOON WITH BARB DOWN BELOW LONG DASH
    1 RIGHTWARDS HARPOON WITH BARB UP ABOVE LONG DASH
    1 RIGHTWARDS HARPOON WITH BARB DOWN BELOW LONG DASH
    1 UPWARDS HARPOON WITH BARB LEFT BESIDE DOWNWARDS HARPOON WITH BARB RIGHT
    1 DOWNWARDS HARPOON WITH BARB LEFT BESIDE UPWARDS HARPOON WITH BARB RIGHT
    1 RIGHT DOUBLE ARROW WITH ROUNDED HEAD
    1 EQUALS SIGN ABOVE RIGHTWARDS ARROW
    1 TILDE OPERATOR ABOVE RIGHTWARDS ARROW
    1 LEFTWARDS ARROW ABOVE TILDE OPERATOR
    1 RIGHTWARDS ARROW ABOVE TILDE OPERATOR
    1 RIGHTWARDS ARROW ABOVE ALMOST EQUAL TO
    1 LESS-THAN ABOVE LEFTWARDS ARROW
    1 LEFTWARDS ARROW THROUGH LESS-THAN
    1 GREATER-THAN ABOVE RIGHTWARDS ARROW
    1 SUBSET ABOVE RIGHTWARDS ARROW
    1 LEFTWARDS ARROW THROUGH SUBSET
    1 SUPERSET ABOVE LEFTWARDS ARROW
    1 LEFT FISH TAIL
    1 RIGHT FISH TAIL
    1 UP FISH TAIL
    1 DOWN FISH TAIL
    181 NORTH EAST WHITE ARROW
    1 NORTH WEST WHITE ARROW
    1 SOUTH EAST WHITE ARROW
    1 SOUTH WEST WHITE ARROW
    1 LEFT RIGHT WHITE ARROW
    1 LEFTWARDS BLACK ARROW
    1 UPWARDS BLACK ARROW
    1 DOWNWARDS BLACK ARROW
    1 NORTH EAST BLACK ARROW
    1 NORTH WEST BLACK ARROW
    1 SOUTH EAST BLACK ARROW
    1 SOUTH WEST BLACK ARROW
    1 LEFT RIGHT BLACK ARROW
    1 UP DOWN BLACK ARROW
    1 RIGHTWARDS ARROW WITH TIP DOWNWARDS
    1 RIGHTWARDS ARROW WITH TIP UPWARDS
    1 LEFTWARDS ARROW WITH TIP DOWNWARDS
    1 LEFTWARDS ARROW WITH TIP UPWARDS
    1 SQUARE WITH TOP HALF BLACK
    1 SQUARE WITH BOTTOM HALF BLACK
    1 SQUARE WITH UPPER RIGHT DIAGONAL HALF BLACK
    1 SQUARE WITH LOWER LEFT DIAGONAL HALF BLACK
    1 DIAMOND WITH LEFT HALF BLACK
    1 DIAMOND WITH RIGHT HALF BLACK
    1 DIAMOND WITH TOP HALF BLACK
    1 DIAMOND WITH BOTTOM HALF BLACK
    1 DOTTED SQUARE
    1 BLACK LARGE SQUARE
    1 WHITE LARGE SQUARE
    1 BLACK VERY SMALL SQUARE
    1 WHITE VERY SMALL SQUARE
    1 BLACK PENTAGON
    1 WHITE PENTAGON
    1 WHITE HEXAGON
    1 BLACK HEXAGON
    1 HORIZONTAL BLACK HEXAGON
    1 BLACK LARGE CIRCLE
    1 BLACK MEDIUM DIAMOND
    1 WHITE MEDIUM DIAMOND
    1 BLACK MEDIUM LOZENGE
    1 WHITE MEDIUM LOZENGE
    1 BLACK SMALL DIAMOND
    1 BLACK SMALL LOZENGE
    1 WHITE SMALL LOZENGE
    1 BLACK HORIZONTAL ELLIPSE
    1 WHITE HORIZONTAL ELLIPSE
    1 BLACK VERTICAL ELLIPSE
    1 WHITE VERTICAL ELLIPSE
    1 LEFT ARROW WITH SMALL CIRCLE
    1 THREE LEFTWARDS ARROWS
    1 LEFT ARROW WITH CIRCLED PLUS
    1 LONG LEFTWARDS SQUIGGLE ARROW
    1 LEFTWARDS TWO-HEADED ARROW WITH VERTICAL STROKE
    1 LEFTWARDS TWO-HEADED ARROW WITH DOUBLE VERTICAL STROKE
    1 LEFTWARDS TWO-HEADED ARROW FROM BAR
    1 LEFTWARDS TWO-HEADED TRIPLE DASH ARROW
    1 LEFTWARDS ARROW WITH DOTTED STEM
    1 LEFTWARDS ARROW WITH TAIL WITH VERTICAL STROKE
    1 LEFTWARDS ARROW WITH TAIL WITH DOUBLE VERTICAL STROKE
    1 LEFTWARDS TWO-HEADED ARROW WITH TAIL
    1 LEFTWARDS TWO-HEADED ARROW WITH TAIL WITH VERTICAL STROKE
    1 LEFTWARDS TWO-HEADED ARROW WITH TAIL WITH DOUBLE VERTICAL STROKE
    1 LEFTWARDS ARROW THROUGH X
    1 WAVE ARROW POINTING DIRECTLY LEFT
    1 EQUALS SIGN ABOVE LEFTWARDS ARROW
    1 REVERSE TILDE OPERATOR ABOVE LEFTWARDS ARROW
    1 LEFTWARDS ARROW ABOVE REVERSE ALMOST EQUAL TO
    1 RIGHTWARDS ARROW THROUGH GREATER-THAN
    1 RIGHTWARDS ARROW THROUGH SUPERSET
    1 LEFTWARDS QUADRUPLE ARROW
    1 RIGHTWARDS QUADRUPLE ARROW
    1 REVERSE TILDE OPERATOR ABOVE RIGHTWARDS ARROW
    1 RIGHTWARDS ARROW ABOVE REVERSE ALMOST EQUAL TO
    1 TILDE OPERATOR ABOVE LEFTWARDS ARROW
    1 LEFTWARDS ARROW ABOVE ALMOST EQUAL TO
    1 LEFTWARDS ARROW ABOVE REVERSE TILDE OPERATOR
    1 RIGHTWARDS ARROW ABOVE REVERSE TILDE OPERATOR
    1 DOWNWARDS TRIANGLE-HEADED ZIGZAG ARROW
    1 SHORT SLANTED NORTH ARROW
    1 SHORT BACKSLANTED SOUTH ARROW
    1 WHITE MEDIUM STAR
    1 BLACK SMALL STAR
    1 WHITE SMALL STAR
    1 BLACK RIGHT-POINTING PENTAGON
    1 WHITE RIGHT-POINTING PENTAGON
    1 HEAVY LARGE CIRCLE
    1 HEAVY OVAL WITH OVAL INSIDE
    1 HEAVY CIRCLE WITH CIRCLE INSIDE
    1 HEAVY CIRCLE
    1 HEAVY CIRCLED SALTIRE
    1 SLANTED NORTH ARROW WITH HOOKED HEAD
    1 BACKSLANTED SOUTH ARROW WITH HOOKED TAIL
    1 SLANTED NORTH ARROW WITH HORIZONTAL TAIL
    1 BACKSLANTED SOUTH ARROW WITH HORIZONTAL TAIL
    1 BENT ARROW POINTING DOWNWARDS THEN NORTH EAST
    1 SHORT BENT ARROW POINTING DOWNWARDS THEN NORTH EAST
    1 LEFTWARDS TRIANGLE-HEADED ARROW
    1 UPWARDS TRIANGLE-HEADED ARROW
    1 RIGHTWARDS TRIANGLE-HEADED ARROW
    1 DOWNWARDS TRIANGLE-HEADED ARROW
    1 LEFT RIGHT TRIANGLE-HEADED ARROW
    1 UP DOWN TRIANGLE-HEADED ARROW
    1 NORTH WEST TRIANGLE-HEADED ARROW
    1 NORTH EAST TRIANGLE-HEADED ARROW
    1 SOUTH EAST TRIANGLE-HEADED ARROW
    1 SOUTH WEST TRIANGLE-HEADED ARROW
    1 LEFTWARDS TRIANGLE-HEADED DASHED ARROW
    1 UPWARDS TRIANGLE-HEADED DASHED ARROW
    1 RIGHTWARDS TRIANGLE-HEADED DASHED ARROW
    1 DOWNWARDS TRIANGLE-HEADED DASHED ARROW
    1 CLOCKWISE TRIANGLE-HEADED OPEN CIRCLE ARROW
    1 ANTICLOCKWISE TRIANGLE-HEADED OPEN CIRCLE ARROW
    1 LEFTWARDS TRIANGLE-HEADED ARROW TO BAR
    1 UPWARDS TRIANGLE-HEADED ARROW TO BAR
    1 RIGHTWARDS TRIANGLE-HEADED ARROW TO BAR
    1 DOWNWARDS TRIANGLE-HEADED ARROW TO BAR
    3 NORTH WEST TRIANGLE-HEADED ARROW TO BAR
    1 NORTH EAST TRIANGLE-HEADED ARROW TO BAR
    1 SOUTH EAST TRIANGLE-HEADED ARROW TO BAR
    1 SOUTH WEST TRIANGLE-HEADED ARROW TO BAR
    1 LEFTWARDS TRIANGLE-HEADED ARROW WITH DOUBLE HORIZONTAL STROKE
    1 UPWARDS TRIANGLE-HEADED ARROW WITH DOUBLE HORIZONTAL STROKE
    1 RIGHTWARDS TRIANGLE-HEADED ARROW WITH DOUBLE HORIZONTAL STROKE
    1 DOWNWARDS TRIANGLE-HEADED ARROW WITH DOUBLE HORIZONTAL STROKE
    1 HORIZONTAL TAB KEY
    1 VERTICAL TAB KEY
    1 LEFTWARDS TRIANGLE-HEADED ARROW OVER RIGHTWARDS TRIANGLE-HEADED ARROW
    1 UPWARDS TRIANGLE-HEADED ARROW LEFTWARDS OF DOWNWARDS TRIANGLE-HEADED ARROW
    1 RIGHTWARDS TRIANGLE-HEADED ARROW OVER LEFTWARDS TRIANGLE-HEADED ARROW
    1 DOWNWARDS TRIANGLE-HEADED ARROW LEFTWARDS OF UPWARDS TRIANGLE-HEADED ARROW
    1 LEFTWARDS TRIANGLE-HEADED PAIRED ARROWS
    1 UPWARDS TRIANGLE-HEADED PAIRED ARROWS
    1 RIGHTWARDS TRIANGLE-HEADED PAIRED ARROWS
    1 DOWNWARDS TRIANGLE-HEADED PAIRED ARROWS
    1 LEFTWARDS BLACK CIRCLED WHITE ARROW
    1 UPWARDS BLACK CIRCLED WHITE ARROW
    1 RIGHTWARDS BLACK CIRCLED WHITE ARROW
    1 DOWNWARDS BLACK CIRCLED WHITE ARROW
    1 ANTICLOCKWISE TRIANGLE-HEADED RIGHT U-SHAPED ARROW
    1 ANTICLOCKWISE TRIANGLE-HEADED BOTTOM U-SHAPED ARROW
    1 ANTICLOCKWISE TRIANGLE-HEADED LEFT U-SHAPED ARROW
    1 ANTICLOCKWISE TRIANGLE-HEADED TOP U-SHAPED ARROW
    1 RETURN LEFT
    1 RETURN RIGHT
    1 NEWLINE LEFT
    1 NEWLINE RIGHT
    1 FOUR CORNER ARROWS CIRCLING ANTICLOCKWISE
    1 RIGHTWARDS BLACK ARROW
    2 SYMBOL FOR TYPE A ELECTRONICS
    1 THREE-D TOP-LIGHTED LEFTWARDS EQUILATERAL ARROWHEAD
    1 THREE-D RIGHT-LIGHTED UPWARDS EQUILATERAL ARROWHEAD
    1 THREE-D TOP-LIGHTED RIGHTWARDS EQUILATERAL ARROWHEAD
    1 THREE-D LEFT-LIGHTED DOWNWARDS EQUILATERAL ARROWHEAD
    1 BLACK LEFTWARDS EQUILATERAL ARROWHEAD
    1 BLACK UPWARDS EQUILATERAL ARROWHEAD
    1 BLACK RIGHTWARDS EQUILATERAL ARROWHEAD
    1 BLACK DOWNWARDS EQUILATERAL ARROWHEAD
    1 DOWNWARDS TRIANGLE-HEADED ARROW WITH LONG TIP LEFTWARDS
    1 DOWNWARDS TRIANGLE-HEADED ARROW WITH LONG TIP RIGHTWARDS
    1 UPWARDS TRIANGLE-HEADED ARROW WITH LONG TIP LEFTWARDS
    1 UPWARDS TRIANGLE-HEADED ARROW WITH LONG TIP RIGHTWARDS
    1 LEFTWARDS TRIANGLE-HEADED ARROW WITH LONG TIP UPWARDS
    1 RIGHTWARDS TRIANGLE-HEADED ARROW WITH LONG TIP UPWARDS
    1 LEFTWARDS TRIANGLE-HEADED ARROW WITH LONG TIP DOWNWARDS
    1 RIGHTWARDS TRIANGLE-HEADED ARROW WITH LONG TIP DOWNWARDS
    1 BLACK CURVED DOWNWARDS AND LEFTWARDS ARROW
    1 BLACK CURVED DOWNWARDS AND RIGHTWARDS ARROW
    1 BLACK CURVED UPWARDS AND LEFTWARDS ARROW
    1 BLACK CURVED UPWARDS AND RIGHTWARDS ARROW
    1 BLACK CURVED LEFTWARDS AND UPWARDS ARROW
    1 BLACK CURVED RIGHTWARDS AND UPWARDS ARROW
    1 BLACK CURVED LEFTWARDS AND DOWNWARDS ARROW
    1 BLACK CURVED RIGHTWARDS AND DOWNWARDS ARROW
    1 RIBBON ARROW DOWN LEFT
    1 RIBBON ARROW DOWN RIGHT
    1 RIBBON ARROW UP LEFT
    1 RIBBON ARROW UP RIGHT
    1 RIBBON ARROW LEFT UP
    1 RIBBON ARROW RIGHT UP
    1 RIBBON ARROW LEFT DOWN
    1 RIBBON ARROW RIGHT DOWN
    1 UPWARDS WHITE ARROW FROM BAR WITH HORIZONTAL BAR
    1 UP ARROWHEAD IN A RECTANGLE BOX
    1 OVERLAPPING WHITE SQUARES
    1 OVERLAPPING WHITE AND BLACK SQUARES
    1 OVERLAPPING BLACK SQUARES
    1 BALLOT BOX WITH LIGHT X
    1 CIRCLED X
    1 CIRCLED BOLD X
    1 BLACK SQUARE CENTRED
    1 BLACK DIAMOND CENTRED
    1 TURNED BLACK PENTAGON
    1 HORIZONTAL BLACK OCTAGON
    1 BLACK OCTAGON
    1 BLACK MEDIUM UP-POINTING TRIANGLE CENTRED
    1 BLACK MEDIUM DOWN-POINTING TRIANGLE CENTRED
    1 BLACK MEDIUM LEFT-POINTING TRIANGLE CENTRED
    1 BLACK MEDIUM RIGHT-POINTING TRIANGLE CENTRED
    1 NEPTUNE FORM TWO
    1 TOP HALF BLACK CIRCLE
    1 BOTTOM HALF BLACK CIRCLE
    1 LIGHT FOUR POINTED BLACK CUSP
    1 ROTATED LIGHT FOUR POINTED BLACK CUSP
    1 WHITE FOUR POINTED CUSP
    1 ROTATED WHITE FOUR POINTED CUSP
    1 SQUARE POSITION INDICATOR
    1 UNCERTAINTY SIGN
    1 GROUP MARK
    1 PLUTO FORM TWO
    1 PLUTO FORM THREE
    1 PLUTO FORM FOUR
    1 PLUTO FORM FIVE
    1 TRANSPLUTO
    1 PROSERPINA
    1 ASTRAEA
    1 HYGIEA
    1 PHOLUS
    1 NESSUS
    1 WHITE MOON SELENA
    1 BLACK DIAMOND ON CROSS
    1 TRUE LIGHT MOON ARTA
    1 CUPIDO
    1 HADES
    1 ZEUS
    1 KRONOS
    1 APOLLON
    1 ADMETOS
    1 VULCANUS
    1 POSEIDON
    1 LEFT HALF BLACK STAR
    1 RIGHT HALF BLACK STAR
    1 STAR WITH LEFT HALF BLACK
    1 STAR WITH RIGHT HALF BLACK
    1 LEFTWARDS TWO-HEADED ARROW WITH TRIANGLE ARROWHEADS
    1 UPWARDS TWO-HEADED ARROW WITH TRIANGLE ARROWHEADS
    1 RIGHTWARDS TWO-HEADED ARROW WITH TRIANGLE ARROWHEADS
    1 DOWNWARDS TWO-HEADED ARROW WITH TRIANGLE ARROWHEADS
    1 ERIS FORM ONE
    1 ERIS FORM TWO
    1 SEDNA
    1 RUSSIAN ASTROLOGICAL SYMBOL VIGINTILE
    1 RUSSIAN ASTROLOGICAL SYMBOL NOVILE
    1 RUSSIAN ASTROLOGICAL SYMBOL QUINTILE
    1 RUSSIAN ASTROLOGICAL SYMBOL BINOVILE
    1 RUSSIAN ASTROLOGICAL SYMBOL SENTAGON
    1 RUSSIAN ASTROLOGICAL SYMBOL TREDECILE
    1 EQUALS SIGN WITH INFINITY BELOW
    1 UNITED SYMBOL
    1 SEPARATED SYMBOL
    1 DOUBLED SYMBOL
    1 PASSED SYMBOL
    1 REVERSED RIGHT ANGLE
    1 HELLSCHREIBER PAUSE SYMBOL
    401 IDEOGRAPHIC SPACE
    1 IDEOGRAPHIC COMMA
    1 IDEOGRAPHIC FULL STOP
    1 DITTO MARK
    1 JAPANESE INDUSTRIAL STANDARD SYMBOL
    1 IDEOGRAPHIC ITERATION MARK
    1 IDEOGRAPHIC CLOSING MARK
    1 IDEOGRAPHIC NUMBER ZERO
    1 LEFT ANGLE BRACKET
    1 RIGHT ANGLE BRACKET
    1 LEFT DOUBLE ANGLE BRACKET
    1 RIGHT DOUBLE ANGLE BRACKET
    1 LEFT CORNER BRACKET
    1 RIGHT CORNER BRACKET
    1 LEFT WHITE CORNER BRACKET
    1 RIGHT WHITE CORNER BRACKET
    1 LEFT BLACK LENTICULAR BRACKET
    1 RIGHT BLACK LENTICULAR BRACKET
    1 POSTAL MARK
    1 GETA MARK
    1 LEFT TORTOISE SHELL BRACKET
    1 RIGHT TORTOISE SHELL BRACKET
    1 LEFT WHITE LENTICULAR BRACKET
    1 RIGHT WHITE LENTICULAR BRACKET
    1 LEFT WHITE TORTOISE SHELL BRACKET
    1 RIGHT WHITE TORTOISE SHELL BRACKET
    1 LEFT WHITE SQUARE BRACKET
    1 RIGHT WHITE SQUARE BRACKET
    1 WAVE DASH
    1 REVERSED DOUBLE PRIME QUOTATION MARK
    1 DOUBLE PRIME QUOTATION MARK
    1 LOW DOUBLE PRIME QUOTATION MARK
    1 POSTAL MARK FACE
    1 HANGZHOU NUMERAL ONE
    1 HANGZHOU NUMERAL TWO
    1 HANGZHOU NUMERAL THREE
    1 HANGZHOU NUMERAL FOUR
    1 HANGZHOU NUMERAL FIVE
    1 HANGZHOU NUMERAL SIX
    1 HANGZHOU NUMERAL SEVEN
    1 HANGZHOU NUMERAL EIGHT
    1 HANGZHOU NUMERAL NINE
    1 IDEOGRAPHIC LEVEL TONE MARK
    1 IDEOGRAPHIC RISING TONE MARK
    1 IDEOGRAPHIC DEPARTING TONE MARK
    1 IDEOGRAPHIC ENTERING TONE MARK
    1 HANGUL SINGLE DOT TONE MARK
    1 HANGUL DOUBLE DOT TONE MARK
    1 WAVY DASH
    1 VERTICAL KANA REPEAT MARK
    1 VERTICAL KANA REPEAT WITH VOICED SOUND MARK
    1 VERTICAL KANA REPEAT MARK UPPER HALF
    1 VERTICAL KANA REPEAT WITH VOICED SOUND MARK UPPER HALF
    1 VERTICAL KANA REPEAT MARK LOWER HALF
    1 CIRCLED POSTAL MARK
    1 IDEOGRAPHIC TELEGRAPH LINE FEED SEPARATOR SYMBOL
    1 HANGZHOU NUMERAL TEN
    1 HANGZHOU NUMERAL TWENTY
    1 HANGZHOU NUMERAL THIRTY
    1 VERTICAL IDEOGRAPHIC ITERATION MARK
    1 MASU MARK
    1 PART ALTERNATION MARK
    1 IDEOGRAPHIC VARIATION INDICATOR
    1 IDEOGRAPHIC HALF FILL SPACE
    2 HIRAGANA LETTER SMALL A
    1 HIRAGANA LETTER A
    1 HIRAGANA LETTER SMALL I
    1 HIRAGANA LETTER I
    1 HIRAGANA LETTER SMALL U
    1 HIRAGANA LETTER U
    1 HIRAGANA LETTER SMALL E
    1 HIRAGANA LETTER E
    1 HIRAGANA LETTER SMALL O
    1 HIRAGANA LETTER O
    1 HIRAGANA LETTER KA
    1 HIRAGANA LETTER GA
    1 HIRAGANA LETTER KI
    1 HIRAGANA LETTER GI
    1 HIRAGANA LETTER KU
    1 HIRAGANA LETTER GU
    1 HIRAGANA LETTER KE
    1 HIRAGANA LETTER GE
    1 HIRAGANA LETTER KO
    1 HIRAGANA LETTER GO
    1 HIRAGANA LETTER SA
    1 HIRAGANA LETTER ZA
    1 HIRAGANA LETTER SI
    1 HIRAGANA LETTER ZI
    1 HIRAGANA LETTER SU
    1 HIRAGANA LETTER ZU
    1 HIRAGANA LETTER SE
    1 HIRAGANA LETTER ZE
    1 HIRAGANA LETTER SO
    1 HIRAGANA LETTER ZO
    1 HIRAGANA LETTER TA
    1 HIRAGANA LETTER DA
    1 HIRAGANA LETTER TI
    1 HIRAGANA LETTER DI
    1 HIRAGANA LETTER SMALL TU
    1 HIRAGANA LETTER TU
    1 HIRAGANA LETTER DU
    1 HIRAGANA LETTER TE
    1 HIRAGANA LETTER DE
    1 HIRAGANA LETTER TO
    1 HIRAGANA LETTER DO
    1 HIRAGANA LETTER NA
    1 HIRAGANA LETTER NI
    1 HIRAGANA LETTER NU
    1 HIRAGANA LETTER NE
    1 HIRAGANA LETTER NO
    1 HIRAGANA LETTER HA
    1 HIRAGANA LETTER BA
    1 HIRAGANA LETTER PA
    1 HIRAGANA LETTER HI
    1 HIRAGANA LETTER BI
    1 HIRAGANA LETTER PI
    1 HIRAGANA LETTER HU
    1 HIRAGANA LETTER BU
    1 HIRAGANA LETTER PU
    1 HIRAGANA LETTER HE
    1 HIRAGANA LETTER BE
    1 HIRAGANA LETTER PE
    1 HIRAGANA LETTER HO
    1 HIRAGANA LETTER BO
    1 HIRAGANA LETTER PO
    1 HIRAGANA LETTER MA
    1 HIRAGANA LETTER MI
    1 HIRAGANA LETTER MU
    1 HIRAGANA LETTER ME
    1 HIRAGANA LETTER MO
    1 HIRAGANA LETTER SMALL YA
    1 HIRAGANA LETTER YA
    1 HIRAGANA LETTER SMALL YU
    1 HIRAGANA LETTER YU
    1 HIRAGANA LETTER SMALL YO
    1 HIRAGANA LETTER YO
    1 HIRAGANA LETTER RA
    1 HIRAGANA LETTER RI
    1 HIRAGANA LETTER RU
    1 HIRAGANA LETTER RE
    1 HIRAGANA LETTER RO
    1 HIRAGANA LETTER SMALL WA
    1 HIRAGANA LETTER WA
    1 HIRAGANA LETTER WI
    1 HIRAGANA LETTER WE
    1 HIRAGANA LETTER WO
    1 HIRAGANA LETTER N
    1 HIRAGANA LETTER VU
    1 HIRAGANA LETTER SMALL KA
    1 HIRAGANA LETTER SMALL KE
    3 COMBINING KATAKANA-HIRAGANA VOICED SOUND MARK
    1 COMBINING KATAKANA-HIRAGANA SEMI-VOICED SOUND MARK
    1 KATAKANA-HIRAGANA VOICED SOUND MARK
    1 KATAKANA-HIRAGANA SEMI-VOICED SOUND MARK
    1 HIRAGANA ITERATION MARK
    1 HIRAGANA VOICED ITERATION MARK
    1 HIRAGANA DIGRAPH YORI
    1 KATAKANA-HIRAGANA DOUBLE HYPHEN
    1 KATAKANA LETTER SMALL A
    1 KATAKANA LETTER A
    1 KATAKANA LETTER SMALL I
    1 KATAKANA LETTER I
    1 KATAKANA LETTER SMALL U
    1 KATAKANA LETTER U
    1 KATAKANA LETTER SMALL E
    1 KATAKANA LETTER E
    1 KATAKANA LETTER SMALL O
    1 KATAKANA LETTER O
    1 KATAKANA LETTER KA
    1 KATAKANA LETTER GA
    1 KATAKANA LETTER KI
    1 KATAKANA LETTER GI
    1 KATAKANA LETTER KU
    1 KATAKANA LETTER GU
    1 KATAKANA LETTER KE
    1 KATAKANA LETTER GE
    1 KATAKANA LETTER KO
    1 KATAKANA LETTER GO
    1 KATAKANA LETTER SA
    1 KATAKANA LETTER ZA
    1 KATAKANA LETTER SI
    1 KATAKANA LETTER ZI
    1 KATAKANA LETTER SU
    1 KATAKANA LETTER ZU
    1 KATAKANA LETTER SE
    1 KATAKANA LETTER ZE
    1 KATAKANA LETTER SO
    1 KATAKANA LETTER ZO
    1 KATAKANA LETTER TA
    1 KATAKANA LETTER DA
    1 KATAKANA LETTER TI
    1 KATAKANA LETTER DI
    1 KATAKANA LETTER SMALL TU
    1 KATAKANA LETTER TU
    1 KATAKANA LETTER DU
    1 KATAKANA LETTER TE
    1 KATAKANA LETTER DE
    1 KATAKANA LETTER TO
    1 KATAKANA LETTER DO
    1 KATAKANA LETTER NA
    1 KATAKANA LETTER NI
    1 KATAKANA LETTER NU
    1 KATAKANA LETTER NE
    1 KATAKANA LETTER NO
    1 KATAKANA LETTER HA
    1 KATAKANA LETTER BA
    1 KATAKANA LETTER PA
    1 KATAKANA LETTER HI
    1 KATAKANA LETTER BI
    1 KATAKANA LETTER PI
    1 KATAKANA LETTER HU
    1 KATAKANA LETTER BU
    1 KATAKANA LETTER PU
    1 KATAKANA LETTER HE
    1 KATAKANA LETTER BE
    1 KATAKANA LETTER PE
    1 KATAKANA LETTER HO
    1 KATAKANA LETTER BO
    1 KATAKANA LETTER PO
    1 KATAKANA LETTER MA
    1 KATAKANA LETTER MI
    1 KATAKANA LETTER MU
    1 KATAKANA LETTER ME
    1 KATAKANA LETTER MO
    1 KATAKANA LETTER SMALL YA
    1 KATAKANA LETTER YA
    1 KATAKANA LETTER SMALL YU
    1 KATAKANA LETTER YU
    1 KATAKANA LETTER SMALL YO
    1 KATAKANA LETTER YO
    1 KATAKANA LETTER RA
    1 KATAKANA LETTER RI
    1 KATAKANA LETTER RU
    1 KATAKANA LETTER RE
    1 KATAKANA LETTER RO
    1 KATAKANA LETTER SMALL WA
    1 KATAKANA LETTER WA
    1 KATAKANA LETTER WI
    1 KATAKANA LETTER WE
    1 KATAKANA LETTER WO
    1 KATAKANA LETTER N
    1 KATAKANA LETTER VU
    1 KATAKANA LETTER SMALL KA
    1 KATAKANA LETTER SMALL KE
    1 KATAKANA LETTER VA
    1 KATAKANA LETTER VI
    1 KATAKANA LETTER VE
    1 KATAKANA LETTER VO
    1 KATAKANA MIDDLE DOT
    1 KATAKANA-HIRAGANA PROLONGED SOUND MARK
    1 KATAKANA ITERATION MARK
    1 KATAKANA VOICED ITERATION MARK
    1 KATAKANA DIGRAPH KOTO
    ca01 LATIN SMALL LIGATURE FF
    1 LATIN SMALL LIGATURE FI
    1 LATIN SMALL LIGATURE FL
    1 LATIN SMALL LIGATURE FFI
    1 LATIN SMALL LIGATURE FFL
    1 LATIN SMALL LIGATURE LONG S T
    1 LATIN SMALL LIGATURE ST
    2fa VARIATION SELECTOR-1
    1 VARIATION SELECTOR-2
    1 VARIATION SELECTOR-3
    1 VARIATION SELECTOR-4
    1 VARIATION SELECTOR-5
    1 VARIATION SELECTOR-6
    1 VARIATION SELECTOR-7
    1 VARIATION SELECTOR-8
    1 VARIATION SELECTOR-9
    1 VARIATION SELECTOR-10
    1 VARIATION SELECTOR-11
    1 VARIATION SELECTOR-12
    1 VARIATION SELECTOR-13
    1 VARIATION SELECTOR-14
    1 VARIATION SELECTOR-15
    1 VARIATION SELECTOR-16
    f0 ZERO WIDTH NO-BREAK SPACE
    2 FULLWIDTH EXCLAMATION MARK
    1 FULLWIDTH QUOTATION MARK
    1 FULLWIDTH NUMBER SIGN
    1 FULLWIDTH DOLLAR SIGN
    1 FULLWIDTH PERCENT SIGN
    1 FULLWIDTH AMPERSAND
    1 FULLWIDTH APOSTROPHE
    1 FULLWIDTH LEFT PARENTHESIS
    1 FULLWIDTH RIGHT PARENTHESIS
    1 FULLWIDTH ASTERISK
    1 FULLWIDTH PLUS SIGN
    1 FULLWIDTH COMMA
    1 FULLWIDTH HYPHEN-MINUS
    1 FULLWIDTH FULL STOP
    1 FULLWIDTH SOLIDUS
    1 FULLWIDTH DIGIT ZERO
    1 FULLWIDTH DIGIT ONE
    1 FULLWIDTH DIGIT TWO
    1 FULLWIDTH DIGIT THREE
    1 FULLWIDTH DIGIT FOUR
    1 FULLWIDTH DIGIT FIVE
    1 FULLWIDTH DIGIT SIX
    1 FULLWIDTH DIGIT SEVEN
    1 FULLWIDTH DIGIT EIGHT
    1 FULLWIDTH DIGIT NINE
    1 FULLWIDTH COLON
    1 FULLWIDTH SEMICOLON
    1 FULLWIDTH LESS-THAN SIGN
    1 FULLWIDTH EQUALS SIGN
    1 FULLWIDTH GREATER-THAN SIGN
    1 FULLWIDTH QUESTION MARK
    1 FULLWIDTH COMMERCIAL AT
    1 FULLWIDTH LATIN CAPITAL LETTER A
    1 FULLWIDTH LATIN CAPITAL LETTER B
    1 FULLWIDTH LATIN CAPITAL LETTER C
    1 FULLWIDTH LATIN CAPITAL LETTER D
    1 FULLWIDTH LATIN CAPITAL LETTER E
    1 FULLWIDTH LATIN CAPITAL LETTER F
    1 FULLWIDTH LATIN CAPITAL LETTER G
    1 FULLWIDTH LATIN CAPITAL LETTER H
    1 FULLWIDTH LATIN CAPITAL LETTER I
    1 FULLWIDTH LATIN CAPITAL LETTER J
    1 FULLWIDTH LATIN CAPITAL LETTER K
    1 FULLWIDTH LATIN CAPITAL LETTER L
    1 FULLWIDTH LATIN CAPITAL LETTER M
    1 FULLWIDTH LATIN CAPITAL LETTER N
    1 FULLWIDTH LATIN CAPITAL LETTER O
    1 FULLWIDTH LATIN CAPITAL LETTER P
    1 FULLWIDTH LATIN CAPITAL LETTER Q
    1 FULLWIDTH LATIN CAPITAL LETTER R
    1 FULLWIDTH LATIN CAPITAL LETTER S
    1 FULLWIDTH LATIN CAPITAL LETTER T
    1 FULLWIDTH LATIN CAPITAL LETTER U
    1 FULLWIDTH LATIN CAPITAL LETTER V
    1 FULLWIDTH LATIN CAPITAL LETTER W
    1 FULLWIDTH LATIN CAPITAL LETTER X
    1 FULLWIDTH LATIN CAPITAL LETTER Y
    1 FULLWIDTH LATIN CAPITAL LETTER Z
    1 FULLWIDTH LEFT SQUARE BRACKET
    1 FULLWIDTH REVERSE SOLIDUS
    1 FULLWIDTH RIGHT SQUARE BRACKET
    1 FULLWIDTH CIRCUMFLEX ACCENT
    1 FULLWIDTH LOW LINE
    1 FULLWIDTH GRAVE ACCENT
    1 FULLWIDTH LATIN SMALL LETTER A
    1 FULLWIDTH LATIN SMALL LETTER B
    1 FULLWIDTH LATIN SMALL LETTER C
    1 FULLWIDTH LATIN SMALL LETTER D
    1 FULLWIDTH LATIN SMALL LETTER E
    1 FULLWIDTH LATIN SMALL LETTER F
    1 FULLWIDTH LATIN SMALL LETTER G
    1 FULLWIDTH LATIN SMALL LETTER H
    1 FULLWIDTH LATIN SMALL LETTER I
    1 FULLWIDTH LATIN SMALL LETTER J
    1 FULLWIDTH LATIN SMALL LETTER K
    1 FULLWIDTH LATIN SMALL LETTER L
    1 FULLWIDTH LATIN SMALL LETTER M
    1 FULLWIDTH LATIN SMALL LETTER N
    1 FULLWIDTH LATIN SMALL LETTER O
    1 FULLWIDTH LATIN SMALL LETTER P
    1 FULLWIDTH LATIN SMALL LETTER Q
    1 FULLWIDTH LATIN SMALL LETTER R
    1 FULLWIDTH LATIN SMALL LETTER S
    1 FULLWIDTH LATIN SMALL LETTER T
    1 FULLWIDTH LATIN SMALL LETTER U
    1 FULLWIDTH LATIN SMALL LETTER V
    1 FULLWIDTH LATIN SMALL LETTER W
    1 FULLWIDTH LATIN SMALL LETTER X
    1 FULLWIDTH LATIN SMALL LETTER Y
    1 FULLWIDTH LATIN SMALL LETTER Z
    1 FULLWIDTH LEFT CURLY BRACKET
    1 FULLWIDTH VERTICAL LINE
    1 FULLWIDTH RIGHT CURLY BRACKET
    1 FULLWIDTH TILDE
    9b INTERLINEAR ANNOTATION ANCHOR
    1 INTERLINEAR ANNOTATION SEPARATOR
    1 INTERLINEAR ANNOTATION TERMINATOR
    1 OBJECT REPLACEMENT CHARACTER
    1 REPLACEMENT CHARACTER
    f303 CYCLONE
    1 FOGGY
    1 CLOSED UMBRELLA
    1 NIGHT WITH STARS
    1 SUNRISE OVER MOUNTAINS
    1 SUNRISE
    1 CITYSCAPE AT DUSK
    1 SUNSET OVER BUILDINGS
    1 RAINBOW
    1 BRIDGE AT NIGHT
    1 WATER WAVE
    1 VOLCANO
    1 MILKY WAY
    1 EARTH GLOBE EUROPE-AFRICA
    1 EARTH GLOBE AMERICAS
    1 EARTH GLOBE ASIA-AUSTRALIA
    1 GLOBE WITH MERIDIANS
    1 NEW MOON SYMBOL
    1 WAXING CRESCENT MOON SYMBOL
    1 FIRST QUARTER MOON SYMBOL
    1 WAXING GIBBOUS MOON SYMBOL
    1 FULL MOON SYMBOL
    1 WANING GIBBOUS MOON SYMBOL
    1 LAST QUARTER MOON SYMBOL
    1 WANING CRESCENT MOON SYMBOL
    1 CRESCENT MOON
    1 NEW MOON WITH FACE
    1 FIRST QUARTER MOON WITH FACE
    1 LAST QUARTER MOON WITH FACE
    1 FULL MOON WITH FACE
    1 SUN WITH FACE
    1 GLOWING STAR
    1 SHOOTING STAR
    1 THERMOMETER
    1 BLACK DROPLET
    1 WHITE SUN
    1 WHITE SUN WITH SMALL CLOUD
    1 WHITE SUN BEHIND CLOUD
    1 WHITE SUN BEHIND CLOUD WITH RAIN
    1 CLOUD WITH RAIN
    1 CLOUD WITH SNOW
    1 CLOUD WITH LIGHTNING
    1 CLOUD WITH TORNADO
    1 FOG
    1 WIND BLOWING FACE
    1 HOT DOG
    1 TACO
    1 BURRITO
    1 CHESTNUT
    1 SEEDLING
    1 EVERGREEN TREE
    1 DECIDUOUS TREE
    1 PALM TREE
    1 CACTUS
    1 HOT PEPPER
    1 TULIP
    1 CHERRY BLOSSOM
    1 ROSE
    1 HIBISCUS
    1 SUNFLOWER
    1 BLOSSOM
    1 EAR OF MAIZE
    1 EAR OF RICE
    1 HERB
    1 FOUR LEAF CLOVER
    1 MAPLE LEAF
    1 FALLEN LEAF
    1 LEAF FLUTTERING IN WIND
    1 MUSHROOM
    1 TOMATO
    1 AUBERGINE
    1 GRAPES
    1 MELON
    1 WATERMELON
    1 TANGERINE
    1 LEMON
    1 BANANA
    1 PINEAPPLE
    1 RED APPLE
    1 GREEN APPLE
    1 PEAR
    1 PEACH
    1 CHERRIES
    1 STRAWBERRY
    1 HAMBURGER
    1 SLICE OF PIZZA
    1 MEAT ON BONE
    1 POULTRY LEG
    1 RICE CRACKER
    1 RICE BALL
    1 COOKED RICE
    1 CURRY AND RICE
    1 STEAMING BOWL
    1 SPAGHETTI
    1 BREAD
    1 FRENCH FRIES
    1 ROASTED SWEET POTATO
    1 DANGO
    1 ODEN
    1 SUSHI
    1 FRIED SHRIMP
    1 FISH CAKE WITH SWIRL DESIGN
    1 SOFT ICE CREAM
    1 SHAVED ICE
    1 ICE CREAM
    1 DOUGHNUT
    1 COOKIE
    1 CHOCOLATE BAR
    1 CANDY
    1 LOLLIPOP
    1 CUSTARD
    1 HONEY POT
    1 SHORTCAKE
    1 BENTO BOX
    1 POT OF FOOD
    1 COOKING
    1 FORK AND KNIFE
    1 TEACUP WITHOUT HANDLE
    1 SAKE BOTTLE AND CUP
    1 WINE GLASS
    1 COCKTAIL GLASS
    1 TROPICAL DRINK
    1 BEER MUG
    1 CLINKING BEER MUGS
    1 BABY BOTTLE
    1 FORK AND KNIFE WITH PLATE
    1 BOTTLE WITH POPPING CORK
    1 POPCORN
    1 RIBBON
    1 WRAPPED PRESENT
    1 BIRTHDAY CAKE
    1 JACK-O-LANTERN
    1 CHRISTMAS TREE
    1 FATHER CHRISTMAS
    1 FIREWORKS
    1 FIREWORK SPARKLER
    1 BALLOON
    1 PARTY POPPER
    1 CONFETTI BALL
    1 TANABATA TREE
    1 CROSSED FLAGS
    1 PINE DECORATION
    1 JAPANESE DOLLS
    1 CARP STREAMER
    1 WIND CHIME
    1 MOON VIEWING CEREMONY
    1 SCHOOL SATCHEL
    1 GRADUATION CAP
    1 HEART WITH TIP ON THE LEFT
    1 BOUQUET OF FLOWERS
    1 MILITARY MEDAL
    1 REMINDER RIBBON
    1 MUSICAL KEYBOARD WITH JACKS
    1 STUDIO MICROPHONE
    1 LEVEL SLIDER
    1 CONTROL KNOBS
    1 BEAMED ASCENDING MUSICAL NOTES
    1 BEAMED DESCENDING MUSICAL NOTES
    1 FILM FRAMES
    1 ADMISSION TICKETS
    1 CAROUSEL HORSE
    1 FERRIS WHEEL
    1 ROLLER COASTER
    1 FISHING POLE AND FISH
    1 MICROPHONE
    1 MOVIE CAMERA
    1 CINEMA
    1 HEADPHONE
    1 ARTIST PALETTE
    1 TOP HAT
    1 CIRCUS TENT
    1 TICKET
    1 CLAPPER BOARD
    1 PERFORMING ARTS
    1 VIDEO GAME
    1 DIRECT HIT
    1 SLOT MACHINE
    1 BILLIARDS
    1 GAME DIE
    1 BOWLING
    1 FLOWER PLAYING CARDS
    1 MUSICAL NOTE
    1 MULTIPLE MUSICAL NOTES
    1 SAXOPHONE
    1 GUITAR
    1 MUSICAL KEYBOARD
    1 TRUMPET
    1 VIOLIN
    1 MUSICAL SCORE
    1 RUNNING SHIRT WITH SASH
    1 TENNIS RACQUET AND BALL
    1 SKI AND SKI BOOT
    1 BASKETBALL AND HOOP
    1 CHEQUERED FLAG
    1 SNOWBOARDER
    1 RUNNER
    1 SURFER
    1 SPORTS MEDAL
    1 TROPHY
    1 HORSE RACING
    1 AMERICAN FOOTBALL
    1 RUGBY FOOTBALL
    1 SWIMMER
    1 WEIGHT LIFTER
    1 GOLFER
    1 RACING MOTORCYCLE
    1 RACING CAR
    1 CRICKET BAT AND BALL
    1 VOLLEYBALL
    1 FIELD HOCKEY STICK AND BALL
    1 ICE HOCKEY STICK AND PUCK
    1 TABLE TENNIS PADDLE AND BALL
    1 SNOW CAPPED MOUNTAIN
    1 CAMPING
    1 BEACH WITH UMBRELLA
    1 BUILDING CONSTRUCTION
    1 HOUSE BUILDINGS
    1 CITYSCAPE
    1 DERELICT HOUSE BUILDING
    1 CLASSICAL BUILDING
    1 DESERT
    1 DESERT ISLAND
    1 NATIONAL PARK
    1 STADIUM
    1 HOUSE BUILDING
    1 HOUSE WITH GARDEN
    1 OFFICE BUILDING
    1 JAPANESE POST OFFICE
    1 EUROPEAN POST OFFICE
    1 HOSPITAL
    1 BANK
    1 AUTOMATED TELLER MACHINE
    1 HOTEL
    1 LOVE HOTEL
    1 CONVENIENCE STORE
    1 SCHOOL
    1 DEPARTMENT STORE
    1 FACTORY
    1 IZAKAYA LANTERN
    1 JAPANESE CASTLE
    1 EUROPEAN CASTLE
    1 WHITE PENNANT
    1 BLACK PENNANT
    1 WAVING WHITE FLAG
    1 WAVING BLACK FLAG
    1 ROSETTE
    1 BLACK ROSETTE
    1 LABEL
    1 BADMINTON RACQUET AND SHUTTLECOCK
    1 BOW AND ARROW
    1 AMPHORA
    1 EMOJI MODIFIER FITZPATRICK TYPE-1-2
    1 EMOJI MODIFIER FITZPATRICK TYPE-3
    1 EMOJI MODIFIER FITZPATRICK TYPE-4
    1 EMOJI MODIFIER FITZPATRICK TYPE-5
    1 EMOJI MODIFIER FITZPATRICK TYPE-6
    1 RAT
    1 MOUSE
    1 OX
    1 WATER BUFFALO
    1 COW
    1 TIGER
    1 LEOPARD
    1 RABBIT
    1 CAT
    1 DRAGON
    1 CROCODILE
    1 WHALE
    1 SNAIL
    1 SNAKE
    1 HORSE
    1 RAM
    1 GOAT
    1 SHEEP
    1 MONKEY
    1 ROOSTER
    1 CHICKEN
    1 DOG
    1 PIG
    1 BOAR
    1 ELEPHANT
    1 OCTOPUS
    1 SPIRAL SHELL
    1 BUG
    1 ANT
    1 HONEYBEE
    1 LADY BEETLE
    1 FISH
    1 TROPICAL FISH
    1 BLOWFISH
    1 TURTLE
    1 HATCHING CHICK
    1 BABY CHICK
    1 FRONT-FACING BABY CHICK
    1 BIRD
    1 PENGUIN
    1 KOALA
    1 POODLE
    1 DROMEDARY CAMEL
    1 BACTRIAN CAMEL
    1 DOLPHIN
    1 MOUSE FACE
    1 COW FACE
    1 TIGER FACE
    1 RABBIT FACE
    1 CAT FACE
    1 DRAGON FACE
    1 SPOUTING WHALE
    1 HORSE FACE
    1 MONKEY FACE
    1 DOG FACE
    1 PIG FACE
    1 FROG FACE
    1 HAMSTER FACE
    1 WOLF FACE
    1 BEAR FACE
    1 PANDA FACE
    1 PIG NOSE
    1 PAW PRINTS
    1 CHIPMUNK
    1 EYES
    1 EYE
    1 EAR
    1 NOSE
    1 MOUTH
    1 TONGUE
    1 WHITE UP POINTING BACKHAND INDEX
    1 WHITE DOWN POINTING BACKHAND INDEX
    1 WHITE LEFT POINTING BACKHAND INDEX
    1 WHITE RIGHT POINTING BACKHAND INDEX
    1 FISTED HAND SIGN
    1 WAVING HAND SIGN
    1 OK HAND SIGN
    1 THUMBS UP SIGN
    1 THUMBS DOWN SIGN
    1 CLAPPING HANDS SIGN
    1 OPEN HANDS SIGN
    1 CROWN
    1 WOMANS HAT
    1 EYEGLASSES
    1 NECKTIE
    1 T-SHIRT
    1 JEANS
    1 DRESS
    1 KIMONO
    1 BIKINI
    1 WOMANS CLOTHES
    1 PURSE
    1 HANDBAG
    1 POUCH
    1 MANS SHOE
    1 ATHLETIC SHOE
    1 HIGH-HEELED SHOE
    1 WOMANS SANDAL
    1 WOMANS BOOTS
    1 FOOTPRINTS
    1 BUST IN SILHOUETTE
    1 BUSTS IN SILHOUETTE
    1 BOY
    1 GIRL
    1 MAN
    1 WOMAN
    1 FAMILY
    1 MAN AND WOMAN HOLDING HANDS
    1 TWO MEN HOLDING HANDS
    1 TWO WOMEN HOLDING HANDS
    1 POLICE OFFICER
    1 WOMAN WITH BUNNY EARS
    1 BRIDE WITH VEIL
    1 PERSON WITH BLOND HAIR
    1 MAN WITH GUA PI MAO
    1 MAN WITH TURBAN
    1 OLDER MAN
    1 OLDER WOMAN
    1 BABY
    1 CONSTRUCTION WORKER
    1 PRINCESS
    1 JAPANESE OGRE
    1 JAPANESE GOBLIN
    1 GHOST
    1 BABY ANGEL
    1 EXTRATERRESTRIAL ALIEN
    1 ALIEN MONSTER
    1 IMP
    1 SKULL
    1 INFORMATION DESK PERSON
    1 GUARDSMAN
    1 DANCER
    1 LIPSTICK
    1 NAIL POLISH
    1 FACE MASSAGE
    1 HAIRCUT
    1 BARBER POLE
    1 SYRINGE
    1 PILL
    1 KISS MARK
    1 LOVE LETTER
    1 RING
    1 GEM STONE
    1 KISS
    1 BOUQUET
    1 COUPLE WITH HEART
    1 WEDDING
    1 BEATING HEART
    1 BROKEN HEART
    1 TWO HEARTS
    1 SPARKLING HEART
    1 GROWING HEART
    1 HEART WITH ARROW
    1 BLUE HEART
    1 GREEN HEART
    1 YELLOW HEART
    1 PURPLE HEART
    1 HEART WITH RIBBON
    1 REVOLVING HEARTS
    1 HEART DECORATION
    1 DIAMOND SHAPE WITH A DOT INSIDE
    1 ELECTRIC LIGHT BULB
    1 ANGER SYMBOL
    1 BOMB
    1 SLEEPING SYMBOL
    1 COLLISION SYMBOL
    1 SPLASHING SWEAT SYMBOL
    1 DROPLET
    1 DASH SYMBOL
    1 PILE OF POO
    1 FLEXED BICEPS
    1 DIZZY SYMBOL
    1 SPEECH BALLOON
    1 THOUGHT BALLOON
    1 WHITE FLOWER
    1 HUNDRED POINTS SYMBOL
    1 MONEY BAG
    1 CURRENCY EXCHANGE
    1 HEAVY DOLLAR SIGN
    1 CREDIT CARD
    1 BANKNOTE WITH YEN SIGN
    1 BANKNOTE WITH DOLLAR SIGN
    1 BANKNOTE WITH EURO SIGN
    1 BANKNOTE WITH POUND SIGN
    1 MONEY WITH WINGS
    1 CHART WITH UPWARDS TREND AND YEN SIGN
    1 SEAT
    1 PERSONAL COMPUTER
    1 BRIEFCASE
    1 MINIDISC
    1 FLOPPY DISK
    1 OPTICAL DISC
    1 DVD
    1 FILE FOLDER
    1 OPEN FILE FOLDER
    1 PAGE WITH CURL
    1 PAGE FACING UP
    1 CALENDAR
    1 TEAR-OFF CALENDAR
    1 CARD INDEX
    1 CHART WITH UPWARDS TREND
    1 CHART WITH DOWNWARDS TREND
    1 BAR CHART
    1 CLIPBOARD
    1 PUSHPIN
    1 ROUND PUSHPIN
    1 PAPERCLIP
    1 STRAIGHT RULER
    1 TRIANGULAR RULER
    1 BOOKMARK TABS
    1 LEDGER
    1 NOTEBOOK
    1 NOTEBOOK WITH DECORATIVE COVER
    1 CLOSED BOOK
    1 OPEN BOOK
    1 GREEN BOOK
    1 BLUE BOOK
    1 ORANGE BOOK
    1 BOOKS
    1 NAME BADGE
    1 SCROLL
    1 MEMO
    1 TELEPHONE RECEIVER
    1 PAGER
    1 FAX MACHINE
    1 SATELLITE ANTENNA
    1 PUBLIC ADDRESS LOUDSPEAKER
    1 CHEERING MEGAPHONE
    1 OUTBOX TRAY
    1 INBOX TRAY
    1 PACKAGE
    1 E-MAIL SYMBOL
    1 INCOMING ENVELOPE
    1 ENVELOPE WITH DOWNWARDS ARROW ABOVE
    1 CLOSED MAILBOX WITH LOWERED FLAG
    1 CLOSED MAILBOX WITH RAISED FLAG
    1 OPEN MAILBOX WITH RAISED FLAG
    1 OPEN MAILBOX WITH LOWERED FLAG
    1 POSTBOX
    1 POSTAL HORN
    1 NEWSPAPER
    1 MOBILE PHONE
    1 MOBILE PHONE WITH RIGHTWARDS ARROW AT LEFT
    1 VIBRATION MODE
    1 MOBILE PHONE OFF
    1 NO MOBILE PHONES
    1 ANTENNA WITH BARS
    1 CAMERA
    1 CAMERA WITH FLASH
    1 VIDEO CAMERA
    1 TELEVISION
    1 RADIO
    1 VIDEOCASSETTE
    1 FILM PROJECTOR
    1 PORTABLE STEREO
    1 PRAYER BEADS
    1 TWISTED RIGHTWARDS ARROWS
    1 CLOCKWISE RIGHTWARDS AND LEFTWARDS OPEN CIRCLE ARROWS
    1 CLOCKWISE RIGHTWARDS AND LEFTWARDS OPEN CIRCLE ARROWS WITH CIRCLED ONE OVERLAY
    1 CLOCKWISE DOWNWARDS AND UPWARDS OPEN CIRCLE ARROWS
    1 ANTICLOCKWISE DOWNWARDS AND UPWARDS OPEN CIRCLE ARROWS
    1 LOW BRIGHTNESS SYMBOL
    1 HIGH BRIGHTNESS SYMBOL
    1 SPEAKER WITH CANCELLATION STROKE
    1 SPEAKER
    1 SPEAKER WITH ONE SOUND WAVE
    1 SPEAKER WITH THREE SOUND WAVES
    1 BATTERY
    1 ELECTRIC PLUG
    1 LEFT-POINTING MAGNIFYING GLASS
    1 RIGHT-POINTING MAGNIFYING GLASS
    1 LOCK WITH INK PEN
    1 CLOSED LOCK WITH KEY
    1 KEY
    1 LOCK
    1 OPEN LOCK
    1 BELL
    1 BELL WITH CANCELLATION STROKE
    1 BOOKMARK
    1 LINK SYMBOL
    1 RADIO BUTTON
    1 BACK WITH LEFTWARDS ARROW ABOVE
    1 END WITH LEFTWARDS ARROW ABOVE
    1 ON WITH EXCLAMATION MARK WITH LEFT RIGHT ARROW ABOVE
    1 SOON WITH RIGHTWARDS ARROW ABOVE
    1 TOP WITH UPWARDS ARROW ABOVE
    1 NO ONE UNDER EIGHTEEN SYMBOL
    1 KEYCAP TEN
    1 INPUT SYMBOL FOR LATIN CAPITAL LETTERS
    1 INPUT SYMBOL FOR LATIN SMALL LETTERS
    1 INPUT SYMBOL FOR NUMBERS
    1 INPUT SYMBOL FOR SYMBOLS
    1 INPUT SYMBOL FOR LATIN LETTERS
    1 FIRE
    1 ELECTRIC TORCH
    1 WRENCH
    1 HAMMER
    1 NUT AND BOLT
    1 HOCHO
    1 PISTOL
    1 MICROSCOPE
    1 TELESCOPE
    1 CRYSTAL BALL
    1 SIX POINTED STAR WITH MIDDLE DOT
    1 JAPANESE SYMBOL FOR BEGINNER
    1 TRIDENT EMBLEM
    1 BLACK SQUARE BUTTON
    1 WHITE SQUARE BUTTON
    1 LARGE RED CIRCLE
    1 LARGE BLUE CIRCLE
    1 LARGE ORANGE DIAMOND
    1 LARGE BLUE DIAMOND
    1 SMALL ORANGE DIAMOND
    1 SMALL BLUE DIAMOND
    1 UP-POINTING RED TRIANGLE
    1 DOWN-POINTING RED TRIANGLE
    1 UP-POINTING SMALL RED TRIANGLE
    1 DOWN-POINTING SMALL RED TRIANGLE
    1 LOWER RIGHT SHADOWED WHITE CIRCLE
    1 UPPER RIGHT SHADOWED WHITE CIRCLE
    1 CIRCLED CROSS POMMEE
    1 CROSS POMMEE WITH HALF-CIRCLE BELOW
    1 CROSS POMMEE
    1 NOTCHED LEFT SEMICIRCLE WITH THREE DOTS
    1 NOTCHED RIGHT SEMICIRCLE WITH THREE DOTS
    1 SYMBOL FOR MARKS CHAPTER
    1 WHITE LATIN CROSS
    1 HEAVY LATIN CROSS
    1 CELTIC CROSS
    1 OM SYMBOL
    1 DOVE OF PEACE
    1 KAABA
    1 MOSQUE
    1 SYNAGOGUE
    1 MENORAH WITH NINE BRANCHES
    1 BOWL OF HYGIEIA
    1 CLOCK FACE ONE OCLOCK
    1 CLOCK FACE TWO OCLOCK
    1 CLOCK FACE THREE OCLOCK
    1 CLOCK FACE FOUR OCLOCK
    1 CLOCK FACE FIVE OCLOCK
    1 CLOCK FACE SIX OCLOCK
    1 CLOCK FACE SEVEN OCLOCK
    1 CLOCK FACE EIGHT OCLOCK
    1 CLOCK FACE NINE OCLOCK
    1 CLOCK FACE TEN OCLOCK
    1 CLOCK FACE ELEVEN OCLOCK
    1 CLOCK FACE TWELVE OCLOCK
    1 CLOCK FACE ONE-THIRTY
    1 CLOCK FACE TWO-THIRTY
    1 CLOCK FACE THREE-THIRTY
    1 CLOCK FACE FOUR-THIRTY
    1 CLOCK FACE FIVE-THIRTY
    1 CLOCK FACE SIX-THIRTY
    1 CLOCK FACE SEVEN-THIRTY
    1 CLOCK FACE EIGHT-THIRTY
    1 CLOCK FACE NINE-THIRTY
    1 CLOCK FACE TEN-THIRTY
    1 CLOCK FACE ELEVEN-THIRTY
    1 CLOCK FACE TWELVE-THIRTY
    1 RIGHT SPEAKER
    1 RIGHT SPEAKER WITH ONE SOUND WAVE
    1 RIGHT SPEAKER WITH THREE SOUND WAVES
    1 BULLHORN
    1 BULLHORN WITH SOUND WAVES
    1 RINGING BELL
    1 BOOK
    1 CANDLE
    1 MANTELPIECE CLOCK
    1 BLACK SKULL AND CROSSBONES
    1 NO PIRACY
    1 HOLE
    1 MAN IN BUSINESS SUIT LEVITATING
    1 SLEUTH OR SPY
    1 DARK SUNGLASSES
    1 SPIDER
    1 SPIDER WEB
    1 JOYSTICK
    1 MAN DANCING
    1 LEFT HAND TELEPHONE RECEIVER
    1 TELEPHONE RECEIVER WITH PAGE
    1 RIGHT HAND TELEPHONE RECEIVER
    1 WHITE TOUCHTONE TELEPHONE
    1 BLACK TOUCHTONE TELEPHONE
    1 TELEPHONE ON TOP OF MODEM
    1 CLAMSHELL MOBILE PHONE
    1 BACK OF ENVELOPE
    1 STAMPED ENVELOPE
    1 ENVELOPE WITH LIGHTNING
    1 FLYING ENVELOPE
    1 PEN OVER STAMPED ENVELOPE
    1 LINKED PAPERCLIPS
    1 BLACK PUSHPIN
    1 LOWER LEFT PENCIL
    1 LOWER LEFT BALLPOINT PEN
    1 LOWER LEFT FOUNTAIN PEN
    1 LOWER LEFT PAINTBRUSH
    1 LOWER LEFT CRAYON
    1 LEFT WRITING HAND
    1 TURNED OK HAND SIGN
    1 RAISED HAND WITH FINGERS SPLAYED
    1 REVERSED RAISED HAND WITH FINGERS SPLAYED
    1 REVERSED THUMBS UP SIGN
    1 REVERSED THUMBS DOWN SIGN
    1 REVERSED VICTORY HAND
    1 REVERSED HAND WITH MIDDLE FINGER EXTENDED
    1 RAISED HAND WITH PART BETWEEN MIDDLE AND RING FINGERS
    1 WHITE DOWN POINTING LEFT HAND INDEX
    1 SIDEWAYS WHITE LEFT POINTING INDEX
    1 SIDEWAYS WHITE RIGHT POINTING INDEX
    1 SIDEWAYS BLACK LEFT POINTING INDEX
    1 SIDEWAYS BLACK RIGHT POINTING INDEX
    1 BLACK LEFT POINTING BACKHAND INDEX
    1 BLACK RIGHT POINTING BACKHAND INDEX
    1 SIDEWAYS WHITE UP POINTING INDEX
    1 SIDEWAYS WHITE DOWN POINTING INDEX
    1 SIDEWAYS BLACK UP POINTING INDEX
    1 SIDEWAYS BLACK DOWN POINTING INDEX
    1 BLACK UP POINTING BACKHAND INDEX
    1 BLACK DOWN POINTING BACKHAND INDEX
    1 BLACK HEART
    1 DESKTOP COMPUTER
    1 KEYBOARD AND MOUSE
    1 THREE NETWORKED COMPUTERS
    1 PRINTER
    1 POCKET CALCULATOR
    1 BLACK HARD SHELL FLOPPY DISK
    1 WHITE HARD SHELL FLOPPY DISK
    1 SOFT SHELL FLOPPY DISK
    1 TAPE CARTRIDGE
    1 WIRED KEYBOARD
    1 ONE BUTTON MOUSE
    1 TWO BUTTON MOUSE
    1 THREE BUTTON MOUSE
    1 TRACKBALL
    1 OLD PERSONAL COMPUTER
    1 HARD DISK
    1 SCREEN
    1 PRINTER ICON
    1 FAX ICON
    1 OPTICAL DISC ICON
    1 DOCUMENT WITH TEXT
    1 DOCUMENT WITH TEXT AND PICTURE
    1 DOCUMENT WITH PICTURE
    1 FRAME WITH PICTURE
    1 FRAME WITH TILES
    1 FRAME WITH AN X
    1 BLACK FOLDER
    1 FOLDER
    1 OPEN FOLDER
    1 CARD INDEX DIVIDERS
    1 CARD FILE BOX
    1 FILE CABINET
    1 EMPTY NOTE
    1 EMPTY NOTE PAGE
    1 EMPTY NOTE PAD
    1 NOTE
    1 NOTE PAGE
    1 NOTE PAD
    1 EMPTY DOCUMENT
    1 EMPTY PAGE
    1 EMPTY PAGES
    1 DOCUMENT
    1 PAGE
    1 PAGES
    1 WASTEBASKET
    1 SPIRAL NOTE PAD
    1 SPIRAL CALENDAR PAD
    1 DESKTOP WINDOW
    1 MINIMIZE
    1 MAXIMIZE
    1 OVERLAP
    1 CLOCKWISE RIGHT AND LEFT SEMICIRCLE ARROWS
    1 CANCELLATION X
    1 INCREASE FONT SIZE SYMBOL
    1 DECREASE FONT SIZE SYMBOL
    1 COMPRESSION
    1 OLD KEY
    1 ROLLED-UP NEWSPAPER
    1 PAGE WITH CIRCLED TEXT
    1 STOCK CHART
    1 DAGGER KNIFE
    1 LIPS
    1 SPEAKING HEAD IN SILHOUETTE
    1 THREE RAYS ABOVE
    1 THREE RAYS BELOW
    1 THREE RAYS LEFT
    1 THREE RAYS RIGHT
    1 LEFT SPEECH BUBBLE
    1 RIGHT SPEECH BUBBLE
    1 TWO SPEECH BUBBLES
    1 THREE SPEECH BUBBLES
    1 LEFT THOUGHT BUBBLE
    1 RIGHT THOUGHT BUBBLE
    1 LEFT ANGER BUBBLE
    1 RIGHT ANGER BUBBLE
    1 MOOD BUBBLE
    1 LIGHTNING MOOD BUBBLE
    1 LIGHTNING MOOD
    1 BALLOT BOX WITH BALLOT
    1 BALLOT SCRIPT X
    1 BALLOT BOX WITH SCRIPT X
    1 BALLOT BOLD SCRIPT X
    1 BALLOT BOX WITH BOLD SCRIPT X
    1 LIGHT CHECK MARK
    1 BALLOT BOX WITH BOLD CHECK
    1 WORLD MAP
    1 MOUNT FUJI
    1 TOKYO TOWER
    1 STATUE OF LIBERTY
    1 SILHOUETTE OF JAPAN
    1 MOYAI
    1 GRINNING FACE
    1 GRINNING FACE WITH SMILING EYES
    1 FACE WITH TEARS OF JOY
    1 SMILING FACE WITH OPEN MOUTH
    1 SMILING FACE WITH OPEN MOUTH AND SMILING EYES
    1 SMILING FACE WITH OPEN MOUTH AND COLD SWEAT
    1 SMILING FACE WITH OPEN MOUTH AND TIGHTLY-CLOSED EYES
    1 SMILING FACE WITH HALO
    1 SMILING FACE WITH HORNS
    1 WINKING FACE
    1 SMILING FACE WITH SMILING EYES
    1 FACE SAVOURING DELICIOUS FOOD
    1 RELIEVED FACE
    1 SMILING FACE WITH HEART-SHAPED EYES
    1 SMILING FACE WITH SUNGLASSES
    1 SMIRKING FACE
    1 NEUTRAL FACE
    1 EXPRESSIONLESS FACE
    1 UNAMUSED FACE
    1 FACE WITH COLD SWEAT
    1 PENSIVE FACE
    1 CONFUSED FACE
    1 CONFOUNDED FACE
    1 KISSING FACE
    1 FACE THROWING A KISS
    1 KISSING FACE WITH SMILING EYES
    1 KISSING FACE WITH CLOSED EYES
    1 FACE WITH STUCK-OUT TONGUE
    1 FACE WITH STUCK-OUT TONGUE AND WINKING EYE
    1 FACE WITH STUCK-OUT TONGUE AND TIGHTLY-CLOSED EYES
    1 DISAPPOINTED FACE
    1 WORRIED FACE
    1 ANGRY FACE
    1 POUTING FACE
    1 CRYING FACE
    1 PERSEVERING FACE
    1 FACE WITH LOOK OF TRIUMPH
    1 DISAPPOINTED BUT RELIEVED FACE
    1 FROWNING FACE WITH OPEN MOUTH
    1 ANGUISHED FACE
    1 FEARFUL FACE
    1 WEARY FACE
    1 SLEEPY FACE
    1 TIRED FACE
    1 GRIMACING FACE
    1 LOUDLY CRYING FACE
    1 FACE WITH OPEN MOUTH
    1 HUSHED FACE
    1 FACE WITH OPEN MOUTH AND COLD SWEAT
    1 FACE SCREAMING IN FEAR
    1 ASTONISHED FACE
    1 FLUSHED FACE
    1 SLEEPING FACE
    1 DIZZY FACE
    1 FACE WITHOUT MOUTH
    1 FACE WITH MEDICAL MASK
    1 GRINNING CAT FACE WITH SMILING EYES
    1 CAT FACE WITH TEARS OF JOY
    1 SMILING CAT FACE WITH OPEN MOUTH
    1 SMILING CAT FACE WITH HEART-SHAPED EYES
    1 CAT FACE WITH WRY SMILE
    1 KISSING CAT FACE WITH CLOSED EYES
    1 POUTING CAT FACE
    1 CRYING CAT FACE
    1 WEARY CAT FACE
    1 SLIGHTLY FROWNING FACE
    1 SLIGHTLY SMILING FACE
    1 UPSIDE-DOWN FACE
    1 FACE WITH ROLLING EYES
    1 FACE WITH NO GOOD GESTURE
    1 FACE WITH OK GESTURE
    1 PERSON BOWING DEEPLY
    1 SEE-NO-EVIL MONKEY
    1 HEAR-NO-EVIL MONKEY
    1 SPEAK-NO-EVIL MONKEY
    1 HAPPY PERSON RAISING ONE HAND
    1 PERSON RAISING BOTH HANDS IN CELEBRATION
    1 PERSON FROWNING
    1 PERSON WITH POUTING FACE
    1 PERSON WITH FOLDED HANDS
    31 ROCKET
    1 HELICOPTER
    1 STEAM LOCOMOTIVE
    1 RAILWAY CAR
    1 HIGH-SPEED TRAIN
    1 HIGH-SPEED TRAIN WITH BULLET NOSE
    1 TRAIN
    1 METRO
    1 LIGHT RAIL
    1 STATION
    1 TRAM
    1 TRAM CAR
    1 BUS
    1 ONCOMING BUS
    1 TROLLEYBUS
    1 BUS STOP
    1 MINIBUS
    1 AMBULANCE
    1 FIRE ENGINE
    1 POLICE CAR
    1 ONCOMING POLICE CAR
    1 TAXI
    1 ONCOMING TAXI
    1 AUTOMOBILE
    1 ONCOMING AUTOMOBILE
    1 RECREATIONAL VEHICLE
    1 DELIVERY TRUCK
    1 ARTICULATED LORRY
    1 TRACTOR
    1 MONORAIL
    1 MOUNTAIN RAILWAY
    1 SUSPENSION RAILWAY
    1 MOUNTAIN CABLEWAY
    1 AERIAL TRAMWAY
    1 SHIP
    1 ROWBOAT
    1 SPEEDBOAT
    1 HORIZONTAL TRAFFIC LIGHT
    1 VERTICAL TRAFFIC LIGHT
    1 CONSTRUCTION SIGN
    1 POLICE CARS REVOLVING LIGHT
    1 TRIANGULAR FLAG ON POST
    1 DOOR
    1 NO ENTRY SIGN
    1 SMOKING SYMBOL
    1 NO SMOKING SYMBOL
    1 PUT LITTER IN ITS PLACE SYMBOL
    1 DO NOT LITTER SYMBOL
    1 POTABLE WATER SYMBOL
    1 NON-POTABLE WATER SYMBOL
    1 BICYCLE
    1 NO BICYCLES
    1 BICYCLIST
    1 MOUNTAIN BICYCLIST
    1 PEDESTRIAN
    1 NO PEDESTRIANS
    1 CHILDREN CROSSING
    1 MENS SYMBOL
    1 WOMENS SYMBOL
    1 RESTROOM
    1 BABY SYMBOL
    1 TOILET
    1 WATER CLOSET
    1 SHOWER
    1 BATH
    1 BATHTUB
    1 PASSPORT CONTROL
    1 CUSTOMS
    1 BAGGAGE CLAIM
    1 LEFT LUGGAGE
    1 TRIANGLE WITH ROUNDED CORNERS
    1 PROHIBITED SIGN
    1 CIRCLED INFORMATION SOURCE
    1 BOYS SYMBOL
    1 GIRLS SYMBOL
    1 COUCH AND LAMP
    1 SLEEPING ACCOMMODATION
    1 SHOPPING BAGS
    1 BELLHOP BELL
    1 BED
    1 PLACE OF WORSHIP
    1 OCTAGONAL SIGN
    1 SHOPPING TROLLEY
    1 STUPA
    1 PAGODA
    1 HINDU TEMPLE
    1 HUT
    1 ELEVATOR
    6 PLAYGROUND SLIDE
    1 WHEEL
    1 RING BUOY
    1 HAMMER AND WRENCH
    1 SHIELD
    1 OIL DRUM
    1 MOTORWAY
    1 RAILWAY TRACK
    1 MOTOR BOAT
    1 UP-POINTING MILITARY AIRPLANE
    1 UP-POINTING AIRPLANE
    1 UP-POINTING SMALL AIRPLANE
    1 SMALL AIRPLANE
    1 NORTHEAST-POINTING AIRPLANE
    1 AIRPLANE DEPARTURE
    1 AIRPLANE ARRIVING
    4 SATELLITE
    1 ONCOMING FIRE ENGINE
    1 DIESEL LOCOMOTIVE
    1 PASSENGER SHIP
    1 SCOOTER
    1 MOTOR SCOOTER
    1 CANOE
    1 SLED
    1 FLYING SAUCER
    1 SKATEBOARD
    1 AUTO RICKSHAW
    1 PICKUP TRUCK
    1 ROLLER SKATE
    204 CIRCLED CROSS FORMEE WITH FOUR DOTS
    1 CIRCLED CROSS FORMEE WITH TWO DOTS
    1 CIRCLED CROSS FORMEE
    1 LEFT HALF CIRCLE WITH FOUR DOTS
    1 LEFT HALF CIRCLE WITH THREE DOTS
    1 LEFT HALF CIRCLE WITH TWO DOTS
    1 LEFT HALF CIRCLE WITH DOT
    1 LEFT HALF CIRCLE
    1 DOWNWARD FACING HOOK
    1 DOWNWARD FACING NOTCHED HOOK
    1 DOWNWARD FACING HOOK WITH DOT
    1 DOWNWARD FACING NOTCHED HOOK WITH DOT
    1 PINCHED FINGERS
    1 WHITE HEART
    1 BROWN HEART
    1 PINCHING HAND
    1 ZIPPER-MOUTH FACE
    1 MONEY-MOUTH FACE
    1 FACE WITH THERMOMETER
    1 NERD FACE
    1 THINKING FACE
    1 FACE WITH HEAD-BANDAGE
    1 ROBOT FACE
    1 HUGGING FACE
    1 SIGN OF THE HORNS
    1 CALL ME HAND
    1 RAISED BACK OF HAND
    1 LEFT-FACING FIST
    1 RIGHT-FACING FIST
    1 HANDSHAKE
    1 HAND WITH INDEX AND MIDDLE FINGERS CROSSED
    1 I LOVE YOU HAND SIGN
    1 FACE WITH COWBOY HAT
    1 CLOWN FACE
    1 NAUSEATED FACE
    1 ROLLING ON THE FLOOR LAUGHING
    1 DROOLING FACE
    1 LYING FACE
    1 FACE PALM
    1 SNEEZING FACE
    1 FACE WITH ONE EYEBROW RAISED
    1 GRINNING FACE WITH STAR EYES
    1 GRINNING FACE WITH ONE LARGE AND ONE SMALL EYE
    1 FACE WITH FINGER COVERING CLOSED LIPS
    1 SERIOUS FACE WITH SYMBOLS COVERING MOUTH
    1 SMILING FACE WITH SMILING EYES AND HAND COVERING MOUTH
    1 FACE WITH OPEN MOUTH VOMITING
    1 SHOCKED FACE WITH EXPLODING HEAD
    1 PREGNANT WOMAN
    1 BREAST-FEEDING
    1 PALMS UP TOGETHER
    1 SELFIE
    1 PRINCE
    1 MAN IN TUXEDO
    1 MOTHER CHRISTMAS
    1 SHRUG
    1 PERSON DOING CARTWHEEL
    1 JUGGLING
    1 FENCER
    1 MODERN PENTATHLON
    1 WRESTLERS
    1 WATER POLO
    1 HANDBALL
    1 DIVING MASK
    1 WILTED FLOWER
    1 DRUM WITH DRUMSTICKS
    1 CLINKING GLASSES
    1 TUMBLER GLASS
    1 SPOON
    1 GOAL NET
    1 RIFLE
    1 FIRST PLACE MEDAL
    1 SECOND PLACE MEDAL
    1 THIRD PLACE MEDAL
    1 BOXING GLOVE
    1 MARTIAL ARTS UNIFORM
    1 CURLING STONE
    1 LACROSSE STICK AND BALL
    1 SOFTBALL
    1 FLYING DISC
    1 CROISSANT
    1 AVOCADO
    1 CUCUMBER
    1 BACON
    1 POTATO
    1 CARROT
    1 BAGUETTE BREAD
    1 GREEN SALAD
    1 SHALLOW PAN OF FOOD
    1 STUFFED FLATBREAD
    1 EGG
    1 GLASS OF MILK
    1 PEANUTS
    1 KIWIFRUIT
    1 PANCAKES
    1 DUMPLING
    1 FORTUNE COOKIE
    1 TAKEOUT BOX
    1 CHOPSTICKS
    1 BOWL WITH SPOON
    1 CUP WITH STRAW
    1 COCONUT
    1 BROCCOLI
    1 PIE
    1 PRETZEL
    1 CUT OF MEAT
    1 SANDWICH
    1 CANNED FOOD
    1 LEAFY GREEN
    1 MANGO
    1 MOON CAKE
    1 BAGEL
    1 SMILING FACE WITH SMILING EYES AND THREE HEARTS
    1 YAWNING FACE
    1 SMILING FACE WITH TEAR
    1 FACE WITH PARTY HORN AND PARTY HAT
    1 FACE WITH UNEVEN EYES AND WAVY MOUTH
    1 OVERHEATED FACE
    1 FREEZING FACE
    1 NINJA
    1 DISGUISED FACE
    1 FACE HOLDING BACK TEARS
    1 FACE WITH PLEADING EYES
    1 SARI
    1 LAB COAT
    1 GOGGLES
    1 HIKING BOOT
    1 FLAT SHOE
    1 CRAB
    1 LION FACE
    1 SCORPION
    1 TURKEY
    1 UNICORN FACE
    1 EAGLE
    1 DUCK
    1 BAT
    1 SHARK
    1 OWL
    1 FOX FACE
    1 BUTTERFLY
    1 DEER
    1 GORILLA
    1 LIZARD
    1 RHINOCEROS
    1 SHRIMP
    1 SQUID
    1 GIRAFFE FACE
    1 ZEBRA FACE
    1 HEDGEHOG
    1 SAUROPOD
    1 T-REX
    1 CRICKET
    1 KANGAROO
    1 LLAMA
    1 PEACOCK
    1 HIPPOPOTAMUS
    1 PARROT
    1 RACCOON
    1 LOBSTER
    1 MOSQUITO
    1 MICROBE
    1 BADGER
    1 SWAN
    1 MAMMOTH
    1 DODO
    1 SLOTH
    1 OTTER
    1 ORANGUTAN
    1 SKUNK
    1 FLAMINGO
    1 OYSTER
    1 BEAVER
    1 BISON
    1 SEAL
    1 GUIDE DOG
    1 PROBING CANE
    1 EMOJI COMPONENT RED HAIR
    1 EMOJI COMPONENT CURLY HAIR
    1 EMOJI COMPONENT BALD
    1 EMOJI COMPONENT WHITE HAIR
    1 BONE
    1 LEG
    1 FOOT
    1 TOOTH
    1 SUPERHERO
    1 SUPERVILLAIN
    1 SAFETY VEST
    1 EAR WITH HEARING AID
    1 MOTORIZED WHEELCHAIR
    1 MANUAL WHEELCHAIR
    1 MECHANICAL ARM
    1 MECHANICAL LEG
    1 CHEESE WEDGE
    1 CUPCAKE
    1 SALT SHAKER
    1 BEVERAGE BOX
    1 GARLIC
    1 ONION
    1 FALAFEL
    1 WAFFLE
    1 BUTTER
    1 MATE DRINK
    1 ICE CUBE
    1 BUBBLE TEA
    1 TROLL
    1 STANDING PERSON
    1 KNEELING PERSON
    1 DEAF PERSON
    1 FACE WITH MONOCLE
    1 ADULT
    1 CHILD
    1 OLDER ADULT
    1 BEARDED PERSON
    1 PERSON WITH HEADSCARF
    1 PERSON IN STEAMY ROOM
    1 PERSON CLIMBING
    1 PERSON IN LOTUS POSITION
    1 MAGE
    1 FAIRY
    1 VAMPIRE
    1 MERPERSON
    1 ELF
    1 GENIE
    1 ZOMBIE
    1 BRAIN
    1 ORANGE HEART
    1 BILLED CAP
    1 SCARF
    1 GLOVES
    1 COAT
    1 SOCKS
    1 RED GIFT ENVELOPE
    1 FIRECRACKER
    1 JIGSAW PUZZLE PIECE
    1 TEST TUBE
    1 PETRI DISH
    1 DNA DOUBLE HELIX
    1 COMPASS
    1 ABACUS
    1 FIRE EXTINGUISHER
    1 TOOLBOX
    1 BRICK
    1 MAGNET
    1 LUGGAGE
    1 LOTION BOTTLE
    1 SPOOL OF THREAD
    1 BALL OF YARN
    1 SAFETY PIN
    1 TEDDY BEAR
    1 BROOM
    1 BASKET
    1 ROLL OF PAPER
    1 BAR OF SOAP
    1 SPONGE
    1 RECEIPT
    1 NAZAR AMULET
    71 BALLET SHOES
    1 ONE-PIECE SWIMSUIT
    1 BRIEFS
    1 SHORTS
    1 THONG SANDAL
    4 DROP OF BLOOD
    1 ADHESIVE BANDAGE
    1 STETHOSCOPE
    1 X-RAY
    1 CRUTCH
    4 YO-YO
    1 KITE
    1 PARACHUTE
    1 BOOMERANG
    1 MAGIC WAND
    1 PINATA
    1 NESTING DOLLS
    a RINGED PLANET
    1 CHAIR
    1 RAZOR
    1 AXE
    1 DIYA LAMP
    1 BANJO
    1 MILITARY HELMET
    1 ACCORDION
    1 LONG DRUM
    1 COIN
    1 CARPENTRY SAW
    1 SCREWDRIVER
    1 LADDER
    1 HOOK
    1 MIRROR
    1 WINDOW
    1 PLUNGER
    1 SEWING NEEDLE
    1 KNOT
    1 BUCKET
    1 MOUSE TRAP
    1 TOOTHBRUSH
    1 HEADSTONE
    1 PLACARD
    1 ROCK
    1 MIRROR BALL
    1 IDENTIFICATION CARD
    1 LOW BATTERY
    1 HAMSA
    4 FLY
    1 WORM
    1 BEETLE
    1 COCKROACH
    1 POTTED PLANT
    1 WOOD
    1 FEATHER
    1 LOTUS
    1 CORAL
    1 EMPTY NEST
    1 NEST WITH EGGS
    6 ANATOMICAL HEART
    1 LUNGS
    1 PEOPLE HUGGING
    1 PREGNANT MAN
    1 PREGNANT PERSON
    1 PERSON WITH CROWN
    b BLUEBERRIES
    1 BELL PEPPER
    1 OLIVE
    1 FLATBREAD
    1 TAMALE
    1 FONDUE
    1 TEAPOT
    1 POURING LIQUID
    1 BEANS
    1 JAR
    7 MELTING FACE
    1 SALUTING FACE
    1 FACE WITH OPEN EYES AND HAND OVER MOUTH
    1 FACE WITH PEEKING EYE
    1 FACE WITH DIAGONAL MOUTH
    1 DOTTED LINE FACE
    1 BITING LIP
    1 BUBBLES
    9 HAND WITH INDEX FINGER AND THUMB CROSSED
    1 RIGHTWARDS HAND
    1 LEFTWARDS HAND
    1 PALM DOWN HAND
    1 PALM UP HAND
    1 INDEX POINTING AT THE VIEWER
    1 HEART HANDS"

/-- Aliases, written in the same way. -/
def aliasTable : String :=
    "0 NUL
    0 NULL
    1 SOH
    0 START OF HEADING
    1 START OF TEXT
    0 STX
    1 END OF TEXT
    0 ETX
    1 END OF TRANSMISSION
    0 EOT
    1 ENQ
    0 ENQUIRY
    1 ACK
    0 ACKNOWLEDGE
    1 ALERT
    0 BEL
    1 BACKSPACE
    0 BS
    1 CHARACTER TABULATION
    0 HORIZONTAL TABULATION
    0 HT
    0 TAB
    1 END OF LINE
    0 EOL
    0 LF
    0 LINE FEED
    0 NEW LINE
    0 NL
    1 LINE TABULATION
    0 VERTICAL TABULATION
    0 VT
    1 FF
    0 FORM FEED
    1 CARRIAGE RETURN
    0 CR
    1 LOCKING-SHIFT ONE
    0 SHIFT OUT
    0 SO
    1 LOCKING-SHIFT ZERO
    0 SHIFT IN
    0 SI
    1 DATA LINK ESCAPE
    0 DLE
    1 DC1
    0 DEVICE CONTROL ONE
    1 DC2
    0 DEVICE CONTROL TWO
    1 DC3
    0 DEVICE CONTROL THREE
    1 DC4
    0 DEVICE CONTROL FOUR
    1 NAK
    0 NEGATIVE ACKNOWLEDGE
    1 SYN
    0 SYNCHRONOUS IDLE
    1 END OF TRANSMISSION BLOCK
    0 ETB
    1 CAN
    0 CANCEL
    1 END OF MEDIUM
    0 EOM
    1 SUB
    0 SUBSTITUTE
    1 ESC
    0 ESCAPE
    1 FILE SEPARATOR
    0 FS
    0 INFORMATION SEPARATOR FOUR
    1 GROUP SEPARATOR
    0 GS
    0 INFORMATION SEPARATOR THREE
    1 INFORMATION SEPARATOR TWO
    0 RECORD SEPARATOR
    0 RS
    1 INFORMATION SEPARATOR ONE
    0 UNIT SEPARATOR
    0 US
    1 SP
    5f DEL
    0 DELETE
    1 PAD
    0 PADDING CHARACTER
    1 HIGH OCTET PRESET
    0 HOP
    1 BPH
    0 BREAK PERMITTED HERE
    1 NBH
    0 NO BREAK HERE
    1 IND
    0 INDEX
    1 NEL
    0 NEXT LINE
    1 SSA
    0 START OF SELECTED AREA
    8 SINGLE SHIFT TWO
    0 SS2
    1 SINGLE SHIFT THREE
    0 SS3
    c CONTROL SEQUENCE INTRODUCER
    0 CSI
    1 ST
    0 STRING TERMINATOR
    1 OPERATING SYSTEM COMMAND
    0 OSC
    1 PM
    0 PRIVACY MESSAGE
    1 APC
    0 APPLICATION PROGRAM COMMAND
    1 NBSP
    d SHY
    f5 LATIN CAPITAL LETTER GHA
    1 LATIN SMALL LETTER GHA
    1ac CGJ
    2cd ALM
    19ef ZWSP
    1 ZWNJ
    1 ZWJ
    1 LRM
    1 RLM
    1b LRE
    1 RLE
    1 PDF
    1 LRO
    1 RLO
    1 NNBSP
    30 MMSP
    1 WJ
    6 LRI
    1 RLI
    1 FSI
    1 PDI
    af WEIERSTRASS ELLIPTIC FUNCTION
    dce8 VS1
    1 VS2
    d VS15
    1 VS16
    f0 BOM
    0 BYTE ORDER MARK
    0 ZWNBSP"

end Lineage.Text
