namespace CompilePlayground.Html.Reference

/-!
# Reference names in upper case

The named characters whose names begin with an upper case letter, each with the
text that it stands for. A name that may stand without its semicolon occurs twice.
-/

/-- Names that begin with `A`. -/
def upperA : List (String × String) :=
  [("AElig", "\u00c6"), ("AElig;", "\u00c6"), ("AMP", "&"), ("AMP;", "&"),
   ("Aacute", "\u00c1"), ("Aacute;", "\u00c1"), ("Abreve;", "\u0102"), ("Acirc", "\u00c2"),
   ("Acirc;", "\u00c2"), ("Acy;", "\u0410"), ("Afr;", "𝔄"), ("Agrave", "\u00c0"),
   ("Agrave;", "\u00c0"), ("Alpha;", "\u0391"), ("Amacr;", "\u0100"), ("And;", "\u2a53"),
   ("Aogon;", "\u0104"), ("Aopf;", "𝔸"), ("ApplyFunction;", "\u2061"), ("Aring", "\u00c5"),
   ("Aring;", "\u00c5"), ("Ascr;", "𝒜"), ("Assign;", "\u2254"), ("Atilde", "\u00c3"),
   ("Atilde;", "\u00c3"), ("Auml", "\u00c4"), ("Auml;", "\u00c4")]

/-- Names that begin with `B`. -/
def upperB : List (String × String) :=
  [("Backslash;", "\u2216"), ("Barv;", "\u2ae7"), ("Barwed;", "\u2306"), ("Bcy;", "\u0411"),
   ("Because;", "\u2235"), ("Bernoullis;", "\u212c"), ("Beta;", "\u0392"), ("Bfr;", "𝔅"),
   ("Bopf;", "𝔹"), ("Breve;", "\u02d8"), ("Bscr;", "\u212c"), ("Bumpeq;", "\u224e")]

/-- Names that begin with `C`. -/
def upperC : List (String × String) :=
  [("CHcy;", "\u0427"), ("COPY", "\u00a9"), ("COPY;", "\u00a9"), ("Cacute;", "\u0106"),
   ("Cap;", "\u22d2"), ("CapitalDifferentialD;", "\u2145"), ("Cayleys;", "\u212d"),
   ("Ccaron;", "\u010c"), ("Ccedil", "\u00c7"), ("Ccedil;", "\u00c7"), ("Ccirc;", "\u0108"),
   ("Cconint;", "\u2230"), ("Cdot;", "\u010a"), ("Cedilla;", "\u00b8"),
   ("CenterDot;", "\u00b7"), ("Cfr;", "\u212d"), ("Chi;", "\u03a7"),
   ("CircleDot;", "\u2299"), ("CircleMinus;", "\u2296"), ("CirclePlus;", "\u2295"),
   ("CircleTimes;", "\u2297"), ("ClockwiseContourIntegral;", "\u2232"),
   ("CloseCurlyDoubleQuote;", "\u201d"), ("CloseCurlyQuote;", "\u2019"),
   ("Colon;", "\u2237"), ("Colone;", "\u2a74"), ("Congruent;", "\u2261"),
   ("Conint;", "\u222f"), ("ContourIntegral;", "\u222e"), ("Copf;", "\u2102"),
   ("Coproduct;", "\u2210"), ("CounterClockwiseContourIntegral;", "\u2233"),
   ("Cross;", "\u2a2f"), ("Cscr;", "𝒞"), ("Cup;", "\u22d3"), ("CupCap;", "\u224d")]

/-- Names that begin with `D`. -/
def upperD : List (String × String) :=
  [("DD;", "\u2145"), ("DDotrahd;", "\u2911"), ("DJcy;", "\u0402"), ("DScy;", "\u0405"),
   ("DZcy;", "\u040f"), ("Dagger;", "\u2021"), ("Darr;", "\u21a1"), ("Dashv;", "\u2ae4"),
   ("Dcaron;", "\u010e"), ("Dcy;", "\u0414"), ("Del;", "\u2207"), ("Delta;", "\u0394"),
   ("Dfr;", "𝔇"), ("DiacriticalAcute;", "\u00b4"), ("DiacriticalDot;", "\u02d9"),
   ("DiacriticalDoubleAcute;", "\u02dd"), ("DiacriticalGrave;", "`"),
   ("DiacriticalTilde;", "\u02dc"), ("Diamond;", "\u22c4"), ("DifferentialD;", "\u2146"),
   ("Dopf;", "𝔻"), ("Dot;", "\u00a8"), ("DotDot;", "\u20dc"), ("DotEqual;", "\u2250"),
   ("DoubleContourIntegral;", "\u222f"), ("DoubleDot;", "\u00a8"),
   ("DoubleDownArrow;", "\u21d3"), ("DoubleLeftArrow;", "\u21d0"),
   ("DoubleLeftRightArrow;", "\u21d4"), ("DoubleLeftTee;", "\u2ae4"),
   ("DoubleLongLeftArrow;", "\u27f8"), ("DoubleLongLeftRightArrow;", "\u27fa"),
   ("DoubleLongRightArrow;", "\u27f9"), ("DoubleRightArrow;", "\u21d2"),
   ("DoubleRightTee;", "\u22a8"), ("DoubleUpArrow;", "\u21d1"),
   ("DoubleUpDownArrow;", "\u21d5"), ("DoubleVerticalBar;", "\u2225"),
   ("DownArrow;", "\u2193"), ("DownArrowBar;", "\u2913"), ("DownArrowUpArrow;", "\u21f5"),
   ("DownBreve;", "\u0311"), ("DownLeftRightVector;", "\u2950"),
   ("DownLeftTeeVector;", "\u295e"), ("DownLeftVector;", "\u21bd"),
   ("DownLeftVectorBar;", "\u2956"), ("DownRightTeeVector;", "\u295f"),
   ("DownRightVector;", "\u21c1"), ("DownRightVectorBar;", "\u2957"),
   ("DownTee;", "\u22a4"), ("DownTeeArrow;", "\u21a7"), ("Downarrow;", "\u21d3"),
   ("Dscr;", "𝒟"), ("Dstrok;", "\u0110")]

/-- Names that begin with `E`. -/
def upperE : List (String × String) :=
  [("ENG;", "\u014a"), ("ETH", "\u00d0"), ("ETH;", "\u00d0"), ("Eacute", "\u00c9"),
   ("Eacute;", "\u00c9"), ("Ecaron;", "\u011a"), ("Ecirc", "\u00ca"), ("Ecirc;", "\u00ca"),
   ("Ecy;", "\u042d"), ("Edot;", "\u0116"), ("Efr;", "𝔈"), ("Egrave", "\u00c8"),
   ("Egrave;", "\u00c8"), ("Element;", "\u2208"), ("Emacr;", "\u0112"),
   ("EmptySmallSquare;", "\u25fb"), ("EmptyVerySmallSquare;", "\u25ab"),
   ("Eogon;", "\u0118"), ("Eopf;", "𝔼"), ("Epsilon;", "\u0395"), ("Equal;", "\u2a75"),
   ("EqualTilde;", "\u2242"), ("Equilibrium;", "\u21cc"), ("Escr;", "\u2130"),
   ("Esim;", "\u2a73"), ("Eta;", "\u0397"), ("Euml", "\u00cb"), ("Euml;", "\u00cb"),
   ("Exists;", "\u2203"), ("ExponentialE;", "\u2147")]

/-- Names that begin with `F`. -/
def upperF : List (String × String) :=
  [("Fcy;", "\u0424"), ("Ffr;", "𝔉"), ("FilledSmallSquare;", "\u25fc"),
   ("FilledVerySmallSquare;", "\u25aa"), ("Fopf;", "𝔽"), ("ForAll;", "\u2200"),
   ("Fouriertrf;", "\u2131"), ("Fscr;", "\u2131")]

/-- Names that begin with `G`. -/
def upperG : List (String × String) :=
  [("GJcy;", "\u0403"), ("GT", ">"), ("GT;", ">"), ("Gamma;", "\u0393"), ("Gammad;", "\u03dc"),
   ("Gbreve;", "\u011e"), ("Gcedil;", "\u0122"), ("Gcirc;", "\u011c"), ("Gcy;", "\u0413"),
   ("Gdot;", "\u0120"), ("Gfr;", "𝔊"), ("Gg;", "\u22d9"), ("Gopf;", "𝔾"),
   ("GreaterEqual;", "\u2265"), ("GreaterEqualLess;", "\u22db"),
   ("GreaterFullEqual;", "\u2267"), ("GreaterGreater;", "\u2aa2"),
   ("GreaterLess;", "\u2277"), ("GreaterSlantEqual;", "\u2a7e"),
   ("GreaterTilde;", "\u2273"), ("Gscr;", "𝒢"), ("Gt;", "\u226b")]

/-- Names that begin with `H`. -/
def upperH : List (String × String) :=
  [("HARDcy;", "\u042a"), ("Hacek;", "\u02c7"), ("Hat;", "^"), ("Hcirc;", "\u0124"),
   ("Hfr;", "\u210c"), ("HilbertSpace;", "\u210b"), ("Hopf;", "\u210d"),
   ("HorizontalLine;", "\u2500"), ("Hscr;", "\u210b"), ("Hstrok;", "\u0126"),
   ("HumpDownHump;", "\u224e"), ("HumpEqual;", "\u224f")]

/-- Names that begin with `I`. -/
def upperI : List (String × String) :=
  [("IEcy;", "\u0415"), ("IJlig;", "\u0132"), ("IOcy;", "\u0401"), ("Iacute", "\u00cd"),
   ("Iacute;", "\u00cd"), ("Icirc", "\u00ce"), ("Icirc;", "\u00ce"), ("Icy;", "\u0418"),
   ("Idot;", "\u0130"), ("Ifr;", "\u2111"), ("Igrave", "\u00cc"), ("Igrave;", "\u00cc"),
   ("Im;", "\u2111"), ("Imacr;", "\u012a"), ("ImaginaryI;", "\u2148"),
   ("Implies;", "\u21d2"), ("Int;", "\u222c"), ("Integral;", "\u222b"),
   ("Intersection;", "\u22c2"), ("InvisibleComma;", "\u2063"),
   ("InvisibleTimes;", "\u2062"), ("Iogon;", "\u012e"), ("Iopf;", "𝕀"), ("Iota;", "\u0399"),
   ("Iscr;", "\u2110"), ("Itilde;", "\u0128"), ("Iukcy;", "\u0406"), ("Iuml", "\u00cf"),
   ("Iuml;", "\u00cf")]

/-- Names that begin with `J`. -/
def upperJ : List (String × String) :=
  [("Jcirc;", "\u0134"), ("Jcy;", "\u0419"), ("Jfr;", "𝔍"), ("Jopf;", "𝕁"), ("Jscr;", "𝒥"),
   ("Jsercy;", "\u0408"), ("Jukcy;", "\u0404")]

/-- Names that begin with `K`. -/
def upperK : List (String × String) :=
  [("KHcy;", "\u0425"), ("KJcy;", "\u040c"), ("Kappa;", "\u039a"), ("Kcedil;", "\u0136"),
   ("Kcy;", "\u041a"), ("Kfr;", "𝔎"), ("Kopf;", "𝕂"), ("Kscr;", "𝒦")]

/-- Names that begin with `L`. -/
def upperL : List (String × String) :=
  [("LJcy;", "\u0409"), ("LT", "<"), ("LT;", "<"), ("Lacute;", "\u0139"),
   ("Lambda;", "\u039b"), ("Lang;", "\u27ea"), ("Laplacetrf;", "\u2112"),
   ("Larr;", "\u219e"), ("Lcaron;", "\u013d"), ("Lcedil;", "\u013b"), ("Lcy;", "\u041b"),
   ("LeftAngleBracket;", "\u27e8"), ("LeftArrow;", "\u2190"), ("LeftArrowBar;", "\u21e4"),
   ("LeftArrowRightArrow;", "\u21c6"), ("LeftCeiling;", "\u2308"),
   ("LeftDoubleBracket;", "\u27e6"), ("LeftDownTeeVector;", "\u2961"),
   ("LeftDownVector;", "\u21c3"), ("LeftDownVectorBar;", "\u2959"),
   ("LeftFloor;", "\u230a"), ("LeftRightArrow;", "\u2194"), ("LeftRightVector;", "\u294e"),
   ("LeftTee;", "\u22a3"), ("LeftTeeArrow;", "\u21a4"), ("LeftTeeVector;", "\u295a"),
   ("LeftTriangle;", "\u22b2"), ("LeftTriangleBar;", "\u29cf"),
   ("LeftTriangleEqual;", "\u22b4"), ("LeftUpDownVector;", "\u2951"),
   ("LeftUpTeeVector;", "\u2960"), ("LeftUpVector;", "\u21bf"),
   ("LeftUpVectorBar;", "\u2958"), ("LeftVector;", "\u21bc"), ("LeftVectorBar;", "\u2952"),
   ("Leftarrow;", "\u21d0"), ("Leftrightarrow;", "\u21d4"), ("LessEqualGreater;", "\u22da"),
   ("LessFullEqual;", "\u2266"), ("LessGreater;", "\u2276"), ("LessLess;", "\u2aa1"),
   ("LessSlantEqual;", "\u2a7d"), ("LessTilde;", "\u2272"), ("Lfr;", "𝔏"),
   ("Ll;", "\u22d8"), ("Lleftarrow;", "\u21da"), ("Lmidot;", "\u013f"),
   ("LongLeftArrow;", "\u27f5"), ("LongLeftRightArrow;", "\u27f7"),
   ("LongRightArrow;", "\u27f6"), ("Longleftarrow;", "\u27f8"),
   ("Longleftrightarrow;", "\u27fa"), ("Longrightarrow;", "\u27f9"), ("Lopf;", "𝕃"),
   ("LowerLeftArrow;", "\u2199"), ("LowerRightArrow;", "\u2198"), ("Lscr;", "\u2112"),
   ("Lsh;", "\u21b0"), ("Lstrok;", "\u0141"), ("Lt;", "\u226a")]

/-- Names that begin with `M`. -/
def upperM : List (String × String) :=
  [("Map;", "\u2905"), ("Mcy;", "\u041c"), ("MediumSpace;", "\u205f"),
   ("Mellintrf;", "\u2133"), ("Mfr;", "𝔐"), ("MinusPlus;", "\u2213"), ("Mopf;", "𝕄"),
   ("Mscr;", "\u2133"), ("Mu;", "\u039c")]

/-- Names that begin with `N`. -/
def upperN : List (String × String) :=
  [("NJcy;", "\u040a"), ("Nacute;", "\u0143"), ("Ncaron;", "\u0147"), ("Ncedil;", "\u0145"),
   ("Ncy;", "\u041d"), ("NegativeMediumSpace;", "\u200b"),
   ("NegativeThickSpace;", "\u200b"), ("NegativeThinSpace;", "\u200b"),
   ("NegativeVeryThinSpace;", "\u200b"), ("NestedGreaterGreater;", "\u226b"),
   ("NestedLessLess;", "\u226a"), ("NewLine;", "\n"), ("Nfr;", "𝔑"), ("NoBreak;", "\u2060"),
   ("NonBreakingSpace;", "\u00a0"), ("Nopf;", "\u2115"), ("Not;", "\u2aec"),
   ("NotCongruent;", "\u2262"), ("NotCupCap;", "\u226d"),
   ("NotDoubleVerticalBar;", "\u2226"), ("NotElement;", "\u2209"), ("NotEqual;", "\u2260"),
   ("NotEqualTilde;", "\u2242\u0338"), ("NotExists;", "\u2204"), ("NotGreater;", "\u226f"),
   ("NotGreaterEqual;", "\u2271"), ("NotGreaterFullEqual;", "\u2267\u0338"),
   ("NotGreaterGreater;", "\u226b\u0338"), ("NotGreaterLess;", "\u2279"),
   ("NotGreaterSlantEqual;", "\u2a7e\u0338"), ("NotGreaterTilde;", "\u2275"),
   ("NotHumpDownHump;", "\u224e\u0338"), ("NotHumpEqual;", "\u224f\u0338"),
   ("NotLeftTriangle;", "\u22ea"), ("NotLeftTriangleBar;", "\u29cf\u0338"),
   ("NotLeftTriangleEqual;", "\u22ec"), ("NotLess;", "\u226e"), ("NotLessEqual;", "\u2270"),
   ("NotLessGreater;", "\u2278"), ("NotLessLess;", "\u226a\u0338"),
   ("NotLessSlantEqual;", "\u2a7d\u0338"), ("NotLessTilde;", "\u2274"),
   ("NotNestedGreaterGreater;", "\u2aa2\u0338"), ("NotNestedLessLess;", "\u2aa1\u0338"),
   ("NotPrecedes;", "\u2280"), ("NotPrecedesEqual;", "\u2aaf\u0338"),
   ("NotPrecedesSlantEqual;", "\u22e0"), ("NotReverseElement;", "\u220c"),
   ("NotRightTriangle;", "\u22eb"), ("NotRightTriangleBar;", "\u29d0\u0338"),
   ("NotRightTriangleEqual;", "\u22ed"), ("NotSquareSubset;", "\u228f\u0338"),
   ("NotSquareSubsetEqual;", "\u22e2"), ("NotSquareSuperset;", "\u2290\u0338"),
   ("NotSquareSupersetEqual;", "\u22e3"), ("NotSubset;", "\u2282\u20d2"),
   ("NotSubsetEqual;", "\u2288"), ("NotSucceeds;", "\u2281"),
   ("NotSucceedsEqual;", "\u2ab0\u0338"), ("NotSucceedsSlantEqual;", "\u22e1"),
   ("NotSucceedsTilde;", "\u227f\u0338"), ("NotSuperset;", "\u2283\u20d2"),
   ("NotSupersetEqual;", "\u2289"), ("NotTilde;", "\u2241"), ("NotTildeEqual;", "\u2244"),
   ("NotTildeFullEqual;", "\u2247"), ("NotTildeTilde;", "\u2249"),
   ("NotVerticalBar;", "\u2224"), ("Nscr;", "𝒩"), ("Ntilde", "\u00d1"),
   ("Ntilde;", "\u00d1"), ("Nu;", "\u039d")]

/-- Names that begin with `O`. -/
def upperO : List (String × String) :=
  [("OElig;", "\u0152"), ("Oacute", "\u00d3"), ("Oacute;", "\u00d3"), ("Ocirc", "\u00d4"),
   ("Ocirc;", "\u00d4"), ("Ocy;", "\u041e"), ("Odblac;", "\u0150"), ("Ofr;", "𝔒"),
   ("Ograve", "\u00d2"), ("Ograve;", "\u00d2"), ("Omacr;", "\u014c"), ("Omega;", "\u03a9"),
   ("Omicron;", "\u039f"), ("Oopf;", "𝕆"), ("OpenCurlyDoubleQuote;", "\u201c"),
   ("OpenCurlyQuote;", "\u2018"), ("Or;", "\u2a54"), ("Oscr;", "𝒪"), ("Oslash", "\u00d8"),
   ("Oslash;", "\u00d8"), ("Otilde", "\u00d5"), ("Otilde;", "\u00d5"),
   ("Otimes;", "\u2a37"), ("Ouml", "\u00d6"), ("Ouml;", "\u00d6"), ("OverBar;", "\u203e"),
   ("OverBrace;", "\u23de"), ("OverBracket;", "\u23b4"), ("OverParenthesis;", "\u23dc")]

/-- Names that begin with `P`. -/
def upperP : List (String × String) :=
  [("PartialD;", "\u2202"), ("Pcy;", "\u041f"), ("Pfr;", "𝔓"), ("Phi;", "\u03a6"),
   ("Pi;", "\u03a0"), ("PlusMinus;", "\u00b1"), ("Poincareplane;", "\u210c"),
   ("Popf;", "\u2119"), ("Pr;", "\u2abb"), ("Precedes;", "\u227a"),
   ("PrecedesEqual;", "\u2aaf"), ("PrecedesSlantEqual;", "\u227c"),
   ("PrecedesTilde;", "\u227e"), ("Prime;", "\u2033"), ("Product;", "\u220f"),
   ("Proportion;", "\u2237"), ("Proportional;", "\u221d"), ("Pscr;", "𝒫"),
   ("Psi;", "\u03a8")]

/-- Names that begin with `Q`. -/
def upperQ : List (String × String) :=
  [("QUOT", "\""), ("QUOT;", "\""), ("Qfr;", "𝔔"), ("Qopf;", "\u211a"), ("Qscr;", "𝒬")]

/-- Names that begin with `R`. -/
def upperR : List (String × String) :=
  [("RBarr;", "\u2910"), ("REG", "\u00ae"), ("REG;", "\u00ae"), ("Racute;", "\u0154"),
   ("Rang;", "\u27eb"), ("Rarr;", "\u21a0"), ("Rarrtl;", "\u2916"), ("Rcaron;", "\u0158"),
   ("Rcedil;", "\u0156"), ("Rcy;", "\u0420"), ("Re;", "\u211c"),
   ("ReverseElement;", "\u220b"), ("ReverseEquilibrium;", "\u21cb"),
   ("ReverseUpEquilibrium;", "\u296f"), ("Rfr;", "\u211c"), ("Rho;", "\u03a1"),
   ("RightAngleBracket;", "\u27e9"), ("RightArrow;", "\u2192"),
   ("RightArrowBar;", "\u21e5"), ("RightArrowLeftArrow;", "\u21c4"),
   ("RightCeiling;", "\u2309"), ("RightDoubleBracket;", "\u27e7"),
   ("RightDownTeeVector;", "\u295d"), ("RightDownVector;", "\u21c2"),
   ("RightDownVectorBar;", "\u2955"), ("RightFloor;", "\u230b"), ("RightTee;", "\u22a2"),
   ("RightTeeArrow;", "\u21a6"), ("RightTeeVector;", "\u295b"),
   ("RightTriangle;", "\u22b3"), ("RightTriangleBar;", "\u29d0"),
   ("RightTriangleEqual;", "\u22b5"), ("RightUpDownVector;", "\u294f"),
   ("RightUpTeeVector;", "\u295c"), ("RightUpVector;", "\u21be"),
   ("RightUpVectorBar;", "\u2954"), ("RightVector;", "\u21c0"),
   ("RightVectorBar;", "\u2953"), ("Rightarrow;", "\u21d2"), ("Ropf;", "\u211d"),
   ("RoundImplies;", "\u2970"), ("Rrightarrow;", "\u21db"), ("Rscr;", "\u211b"),
   ("Rsh;", "\u21b1"), ("RuleDelayed;", "\u29f4")]

/-- Names that begin with `S`. -/
def upperS : List (String × String) :=
  [("SHCHcy;", "\u0429"), ("SHcy;", "\u0428"), ("SOFTcy;", "\u042c"), ("Sacute;", "\u015a"),
   ("Sc;", "\u2abc"), ("Scaron;", "\u0160"), ("Scedil;", "\u015e"), ("Scirc;", "\u015c"),
   ("Scy;", "\u0421"), ("Sfr;", "𝔖"), ("ShortDownArrow;", "\u2193"),
   ("ShortLeftArrow;", "\u2190"), ("ShortRightArrow;", "\u2192"),
   ("ShortUpArrow;", "\u2191"), ("Sigma;", "\u03a3"), ("SmallCircle;", "\u2218"),
   ("Sopf;", "𝕊"), ("Sqrt;", "\u221a"), ("Square;", "\u25a1"),
   ("SquareIntersection;", "\u2293"), ("SquareSubset;", "\u228f"),
   ("SquareSubsetEqual;", "\u2291"), ("SquareSuperset;", "\u2290"),
   ("SquareSupersetEqual;", "\u2292"), ("SquareUnion;", "\u2294"), ("Sscr;", "𝒮"),
   ("Star;", "\u22c6"), ("Sub;", "\u22d0"), ("Subset;", "\u22d0"),
   ("SubsetEqual;", "\u2286"), ("Succeeds;", "\u227b"), ("SucceedsEqual;", "\u2ab0"),
   ("SucceedsSlantEqual;", "\u227d"), ("SucceedsTilde;", "\u227f"), ("SuchThat;", "\u220b"),
   ("Sum;", "\u2211"), ("Sup;", "\u22d1"), ("Superset;", "\u2283"),
   ("SupersetEqual;", "\u2287"), ("Supset;", "\u22d1")]

/-- Names that begin with `T`. -/
def upperT : List (String × String) :=
  [("THORN", "\u00de"), ("THORN;", "\u00de"), ("TRADE;", "\u2122"), ("TSHcy;", "\u040b"),
   ("TScy;", "\u0426"), ("Tab;", "\t"), ("Tau;", "\u03a4"), ("Tcaron;", "\u0164"),
   ("Tcedil;", "\u0162"), ("Tcy;", "\u0422"), ("Tfr;", "𝔗"), ("Therefore;", "\u2234"),
   ("Theta;", "\u0398"), ("ThickSpace;", "\u205f\u200a"), ("ThinSpace;", "\u2009"),
   ("Tilde;", "\u223c"), ("TildeEqual;", "\u2243"), ("TildeFullEqual;", "\u2245"),
   ("TildeTilde;", "\u2248"), ("Topf;", "𝕋"), ("TripleDot;", "\u20db"), ("Tscr;", "𝒯"),
   ("Tstrok;", "\u0166")]

/-- Names that begin with `U`. -/
def upperU : List (String × String) :=
  [("Uacute", "\u00da"), ("Uacute;", "\u00da"), ("Uarr;", "\u219f"), ("Uarrocir;", "\u2949"),
   ("Ubrcy;", "\u040e"), ("Ubreve;", "\u016c"), ("Ucirc", "\u00db"), ("Ucirc;", "\u00db"),
   ("Ucy;", "\u0423"), ("Udblac;", "\u0170"), ("Ufr;", "𝔘"), ("Ugrave", "\u00d9"),
   ("Ugrave;", "\u00d9"), ("Umacr;", "\u016a"), ("UnderBar;", "_"),
   ("UnderBrace;", "\u23df"), ("UnderBracket;", "\u23b5"), ("UnderParenthesis;", "\u23dd"),
   ("Union;", "\u22c3"), ("UnionPlus;", "\u228e"), ("Uogon;", "\u0172"), ("Uopf;", "𝕌"),
   ("UpArrow;", "\u2191"), ("UpArrowBar;", "\u2912"), ("UpArrowDownArrow;", "\u21c5"),
   ("UpDownArrow;", "\u2195"), ("UpEquilibrium;", "\u296e"), ("UpTee;", "\u22a5"),
   ("UpTeeArrow;", "\u21a5"), ("Uparrow;", "\u21d1"), ("Updownarrow;", "\u21d5"),
   ("UpperLeftArrow;", "\u2196"), ("UpperRightArrow;", "\u2197"), ("Upsi;", "\u03d2"),
   ("Upsilon;", "\u03a5"), ("Uring;", "\u016e"), ("Uscr;", "𝒰"), ("Utilde;", "\u0168"),
   ("Uuml", "\u00dc"), ("Uuml;", "\u00dc")]

/-- Names that begin with `V`. -/
def upperV : List (String × String) :=
  [("VDash;", "\u22ab"), ("Vbar;", "\u2aeb"), ("Vcy;", "\u0412"), ("Vdash;", "\u22a9"),
   ("Vdashl;", "\u2ae6"), ("Vee;", "\u22c1"), ("Verbar;", "\u2016"), ("Vert;", "\u2016"),
   ("VerticalBar;", "\u2223"), ("VerticalLine;", "|"), ("VerticalSeparator;", "\u2758"),
   ("VerticalTilde;", "\u2240"), ("VeryThinSpace;", "\u200a"), ("Vfr;", "𝔙"),
   ("Vopf;", "𝕍"), ("Vscr;", "𝒱"), ("Vvdash;", "\u22aa")]

/-- Names that begin with `W`. -/
def upperW : List (String × String) :=
  [("Wcirc;", "\u0174"), ("Wedge;", "\u22c0"), ("Wfr;", "𝔚"), ("Wopf;", "𝕎"), ("Wscr;", "𝒲")]

/-- Names that begin with `X`. -/
def upperX : List (String × String) :=
  [("Xfr;", "𝔛"), ("Xi;", "\u039e"), ("Xopf;", "𝕏"), ("Xscr;", "𝒳")]

/-- Names that begin with `Y`. -/
def upperY : List (String × String) :=
  [("YAcy;", "\u042f"), ("YIcy;", "\u0407"), ("YUcy;", "\u042e"), ("Yacute", "\u00dd"),
   ("Yacute;", "\u00dd"), ("Ycirc;", "\u0176"), ("Ycy;", "\u042b"), ("Yfr;", "𝔜"),
   ("Yopf;", "𝕐"), ("Yscr;", "𝒴"), ("Yuml;", "\u0178")]

/-- Names that begin with `Z`. -/
def upperZ : List (String × String) :=
  [("ZHcy;", "\u0416"), ("Zacute;", "\u0179"), ("Zcaron;", "\u017d"), ("Zcy;", "\u0417"),
   ("Zdot;", "\u017b"), ("ZeroWidthSpace;", "\u200b"), ("Zeta;", "\u0396"),
   ("Zfr;", "\u2128"), ("Zopf;", "\u2124"), ("Zscr;", "𝒵")]

end CompilePlayground.Html.Reference
