namespace CompilePlayground.Html.Reference

/-!
# Reference names in lower case

The named characters whose names begin with a lower case letter, each with the
text that it stands for. A name that may stand without its semicolon occurs twice.
-/

/-- Names that begin with `a`. -/
def lowerA : List (String × String) :=
  [("aacute", "\u00e1"), ("aacute;", "\u00e1"), ("abreve;", "\u0103"), ("ac;", "\u223e"),
   ("acE;", "\u223e\u0333"), ("acd;", "\u223f"), ("acirc", "\u00e2"), ("acirc;", "\u00e2"),
   ("acute", "\u00b4"), ("acute;", "\u00b4"), ("acy;", "\u0430"), ("aelig", "\u00e6"),
   ("aelig;", "\u00e6"), ("af;", "\u2061"), ("afr;", "𝔞"), ("agrave", "\u00e0"),
   ("agrave;", "\u00e0"), ("alefsym;", "\u2135"), ("aleph;", "\u2135"),
   ("alpha;", "\u03b1"), ("amacr;", "\u0101"), ("amalg;", "\u2a3f"), ("amp", "&"),
   ("amp;", "&"), ("and;", "\u2227"), ("andand;", "\u2a55"), ("andd;", "\u2a5c"),
   ("andslope;", "\u2a58"), ("andv;", "\u2a5a"), ("ang;", "\u2220"), ("ange;", "\u29a4"),
   ("angle;", "\u2220"), ("angmsd;", "\u2221"), ("angmsdaa;", "\u29a8"),
   ("angmsdab;", "\u29a9"), ("angmsdac;", "\u29aa"), ("angmsdad;", "\u29ab"),
   ("angmsdae;", "\u29ac"), ("angmsdaf;", "\u29ad"), ("angmsdag;", "\u29ae"),
   ("angmsdah;", "\u29af"), ("angrt;", "\u221f"), ("angrtvb;", "\u22be"),
   ("angrtvbd;", "\u299d"), ("angsph;", "\u2222"), ("angst;", "\u00c5"),
   ("angzarr;", "\u237c"), ("aogon;", "\u0105"), ("aopf;", "𝕒"), ("ap;", "\u2248"),
   ("apE;", "\u2a70"), ("apacir;", "\u2a6f"), ("ape;", "\u224a"), ("apid;", "\u224b"),
   ("apos;", "'"), ("approx;", "\u2248"), ("approxeq;", "\u224a"), ("aring", "\u00e5"),
   ("aring;", "\u00e5"), ("ascr;", "𝒶"), ("ast;", "*"), ("asymp;", "\u2248"),
   ("asympeq;", "\u224d"), ("atilde", "\u00e3"), ("atilde;", "\u00e3"), ("auml", "\u00e4"),
   ("auml;", "\u00e4"), ("awconint;", "\u2233"), ("awint;", "\u2a11")]

/-- Names that begin with `b`. -/
def lowerB : List (String × String) :=
  [("bNot;", "\u2aed"), ("backcong;", "\u224c"), ("backepsilon;", "\u03f6"),
   ("backprime;", "\u2035"), ("backsim;", "\u223d"), ("backsimeq;", "\u22cd"),
   ("barvee;", "\u22bd"), ("barwed;", "\u2305"), ("barwedge;", "\u2305"),
   ("bbrk;", "\u23b5"), ("bbrktbrk;", "\u23b6"), ("bcong;", "\u224c"), ("bcy;", "\u0431"),
   ("bdquo;", "\u201e"), ("becaus;", "\u2235"), ("because;", "\u2235"),
   ("bemptyv;", "\u29b0"), ("bepsi;", "\u03f6"), ("bernou;", "\u212c"), ("beta;", "\u03b2"),
   ("beth;", "\u2136"), ("between;", "\u226c"), ("bfr;", "𝔟"), ("bigcap;", "\u22c2"),
   ("bigcirc;", "\u25ef"), ("bigcup;", "\u22c3"), ("bigodot;", "\u2a00"),
   ("bigoplus;", "\u2a01"), ("bigotimes;", "\u2a02"), ("bigsqcup;", "\u2a06"),
   ("bigstar;", "\u2605"), ("bigtriangledown;", "\u25bd"), ("bigtriangleup;", "\u25b3"),
   ("biguplus;", "\u2a04"), ("bigvee;", "\u22c1"), ("bigwedge;", "\u22c0"),
   ("bkarow;", "\u290d"), ("blacklozenge;", "\u29eb"), ("blacksquare;", "\u25aa"),
   ("blacktriangle;", "\u25b4"), ("blacktriangledown;", "\u25be"),
   ("blacktriangleleft;", "\u25c2"), ("blacktriangleright;", "\u25b8"),
   ("blank;", "\u2423"), ("blk12;", "\u2592"), ("blk14;", "\u2591"), ("blk34;", "\u2593"),
   ("block;", "\u2588"), ("bne;", "=\u20e5"), ("bnequiv;", "\u2261\u20e5"),
   ("bnot;", "\u2310"), ("bopf;", "𝕓"), ("bot;", "\u22a5"), ("bottom;", "\u22a5"),
   ("bowtie;", "\u22c8"), ("boxDL;", "\u2557"), ("boxDR;", "\u2554"), ("boxDl;", "\u2556"),
   ("boxDr;", "\u2553"), ("boxH;", "\u2550"), ("boxHD;", "\u2566"), ("boxHU;", "\u2569"),
   ("boxHd;", "\u2564"), ("boxHu;", "\u2567"), ("boxUL;", "\u255d"), ("boxUR;", "\u255a"),
   ("boxUl;", "\u255c"), ("boxUr;", "\u2559"), ("boxV;", "\u2551"), ("boxVH;", "\u256c"),
   ("boxVL;", "\u2563"), ("boxVR;", "\u2560"), ("boxVh;", "\u256b"), ("boxVl;", "\u2562"),
   ("boxVr;", "\u255f"), ("boxbox;", "\u29c9"), ("boxdL;", "\u2555"), ("boxdR;", "\u2552"),
   ("boxdl;", "\u2510"), ("boxdr;", "\u250c"), ("boxh;", "\u2500"), ("boxhD;", "\u2565"),
   ("boxhU;", "\u2568"), ("boxhd;", "\u252c"), ("boxhu;", "\u2534"),
   ("boxminus;", "\u229f"), ("boxplus;", "\u229e"), ("boxtimes;", "\u22a0"),
   ("boxuL;", "\u255b"), ("boxuR;", "\u2558"), ("boxul;", "\u2518"), ("boxur;", "\u2514"),
   ("boxv;", "\u2502"), ("boxvH;", "\u256a"), ("boxvL;", "\u2561"), ("boxvR;", "\u255e"),
   ("boxvh;", "\u253c"), ("boxvl;", "\u2524"), ("boxvr;", "\u251c"), ("bprime;", "\u2035"),
   ("breve;", "\u02d8"), ("brvbar", "\u00a6"), ("brvbar;", "\u00a6"), ("bscr;", "𝒷"),
   ("bsemi;", "\u204f"), ("bsim;", "\u223d"), ("bsime;", "\u22cd"), ("bsol;", "\\"),
   ("bsolb;", "\u29c5"), ("bsolhsub;", "\u27c8"), ("bull;", "\u2022"),
   ("bullet;", "\u2022"), ("bump;", "\u224e"), ("bumpE;", "\u2aae"), ("bumpe;", "\u224f"),
   ("bumpeq;", "\u224f")]

/-- Names that begin with `c`. -/
def lowerC : List (String × String) :=
  [("cacute;", "\u0107"), ("cap;", "\u2229"), ("capand;", "\u2a44"), ("capbrcup;", "\u2a49"),
   ("capcap;", "\u2a4b"), ("capcup;", "\u2a47"), ("capdot;", "\u2a40"),
   ("caps;", "\u2229\ufe00"), ("caret;", "\u2041"), ("caron;", "\u02c7"),
   ("ccaps;", "\u2a4d"), ("ccaron;", "\u010d"), ("ccedil", "\u00e7"), ("ccedil;", "\u00e7"),
   ("ccirc;", "\u0109"), ("ccups;", "\u2a4c"), ("ccupssm;", "\u2a50"), ("cdot;", "\u010b"),
   ("cedil", "\u00b8"), ("cedil;", "\u00b8"), ("cemptyv;", "\u29b2"), ("cent", "\u00a2"),
   ("cent;", "\u00a2"), ("centerdot;", "\u00b7"), ("cfr;", "𝔠"), ("chcy;", "\u0447"),
   ("check;", "\u2713"), ("checkmark;", "\u2713"), ("chi;", "\u03c7"), ("cir;", "\u25cb"),
   ("cirE;", "\u29c3"), ("circ;", "\u02c6"), ("circeq;", "\u2257"),
   ("circlearrowleft;", "\u21ba"), ("circlearrowright;", "\u21bb"), ("circledR;", "\u00ae"),
   ("circledS;", "\u24c8"), ("circledast;", "\u229b"), ("circledcirc;", "\u229a"),
   ("circleddash;", "\u229d"), ("cire;", "\u2257"), ("cirfnint;", "\u2a10"),
   ("cirmid;", "\u2aef"), ("cirscir;", "\u29c2"), ("clubs;", "\u2663"),
   ("clubsuit;", "\u2663"), ("colon;", ":"), ("colone;", "\u2254"), ("coloneq;", "\u2254"),
   ("comma;", ","), ("commat;", "@"), ("comp;", "\u2201"), ("compfn;", "\u2218"),
   ("complement;", "\u2201"), ("complexes;", "\u2102"), ("cong;", "\u2245"),
   ("congdot;", "\u2a6d"), ("conint;", "\u222e"), ("copf;", "𝕔"), ("coprod;", "\u2210"),
   ("copy", "\u00a9"), ("copy;", "\u00a9"), ("copysr;", "\u2117"), ("crarr;", "\u21b5"),
   ("cross;", "\u2717"), ("cscr;", "𝒸"), ("csub;", "\u2acf"), ("csube;", "\u2ad1"),
   ("csup;", "\u2ad0"), ("csupe;", "\u2ad2"), ("ctdot;", "\u22ef"), ("cudarrl;", "\u2938"),
   ("cudarrr;", "\u2935"), ("cuepr;", "\u22de"), ("cuesc;", "\u22df"),
   ("cularr;", "\u21b6"), ("cularrp;", "\u293d"), ("cup;", "\u222a"),
   ("cupbrcap;", "\u2a48"), ("cupcap;", "\u2a46"), ("cupcup;", "\u2a4a"),
   ("cupdot;", "\u228d"), ("cupor;", "\u2a45"), ("cups;", "\u222a\ufe00"),
   ("curarr;", "\u21b7"), ("curarrm;", "\u293c"), ("curlyeqprec;", "\u22de"),
   ("curlyeqsucc;", "\u22df"), ("curlyvee;", "\u22ce"), ("curlywedge;", "\u22cf"),
   ("curren", "\u00a4"), ("curren;", "\u00a4"), ("curvearrowleft;", "\u21b6"),
   ("curvearrowright;", "\u21b7"), ("cuvee;", "\u22ce"), ("cuwed;", "\u22cf"),
   ("cwconint;", "\u2232"), ("cwint;", "\u2231"), ("cylcty;", "\u232d")]

/-- Names that begin with `d`. -/
def lowerD : List (String × String) :=
  [("dArr;", "\u21d3"), ("dHar;", "\u2965"), ("dagger;", "\u2020"), ("daleth;", "\u2138"),
   ("darr;", "\u2193"), ("dash;", "\u2010"), ("dashv;", "\u22a3"), ("dbkarow;", "\u290f"),
   ("dblac;", "\u02dd"), ("dcaron;", "\u010f"), ("dcy;", "\u0434"), ("dd;", "\u2146"),
   ("ddagger;", "\u2021"), ("ddarr;", "\u21ca"), ("ddotseq;", "\u2a77"), ("deg", "\u00b0"),
   ("deg;", "\u00b0"), ("delta;", "\u03b4"), ("demptyv;", "\u29b1"), ("dfisht;", "\u297f"),
   ("dfr;", "𝔡"), ("dharl;", "\u21c3"), ("dharr;", "\u21c2"), ("diam;", "\u22c4"),
   ("diamond;", "\u22c4"), ("diamondsuit;", "\u2666"), ("diams;", "\u2666"),
   ("die;", "\u00a8"), ("digamma;", "\u03dd"), ("disin;", "\u22f2"), ("div;", "\u00f7"),
   ("divide", "\u00f7"), ("divide;", "\u00f7"), ("divideontimes;", "\u22c7"),
   ("divonx;", "\u22c7"), ("djcy;", "\u0452"), ("dlcorn;", "\u231e"), ("dlcrop;", "\u230d"),
   ("dollar;", "$"), ("dopf;", "𝕕"), ("dot;", "\u02d9"), ("doteq;", "\u2250"),
   ("doteqdot;", "\u2251"), ("dotminus;", "\u2238"), ("dotplus;", "\u2214"),
   ("dotsquare;", "\u22a1"), ("doublebarwedge;", "\u2306"), ("downarrow;", "\u2193"),
   ("downdownarrows;", "\u21ca"), ("downharpoonleft;", "\u21c3"),
   ("downharpoonright;", "\u21c2"), ("drbkarow;", "\u2910"), ("drcorn;", "\u231f"),
   ("drcrop;", "\u230c"), ("dscr;", "𝒹"), ("dscy;", "\u0455"), ("dsol;", "\u29f6"),
   ("dstrok;", "\u0111"), ("dtdot;", "\u22f1"), ("dtri;", "\u25bf"), ("dtrif;", "\u25be"),
   ("duarr;", "\u21f5"), ("duhar;", "\u296f"), ("dwangle;", "\u29a6"), ("dzcy;", "\u045f"),
   ("dzigrarr;", "\u27ff")]

/-- Names that begin with `e`. -/
def lowerE : List (String × String) :=
  [("eDDot;", "\u2a77"), ("eDot;", "\u2251"), ("eacute", "\u00e9"), ("eacute;", "\u00e9"),
   ("easter;", "\u2a6e"), ("ecaron;", "\u011b"), ("ecir;", "\u2256"), ("ecirc", "\u00ea"),
   ("ecirc;", "\u00ea"), ("ecolon;", "\u2255"), ("ecy;", "\u044d"), ("edot;", "\u0117"),
   ("ee;", "\u2147"), ("efDot;", "\u2252"), ("efr;", "𝔢"), ("eg;", "\u2a9a"),
   ("egrave", "\u00e8"), ("egrave;", "\u00e8"), ("egs;", "\u2a96"), ("egsdot;", "\u2a98"),
   ("el;", "\u2a99"), ("elinters;", "\u23e7"), ("ell;", "\u2113"), ("els;", "\u2a95"),
   ("elsdot;", "\u2a97"), ("emacr;", "\u0113"), ("empty;", "\u2205"),
   ("emptyset;", "\u2205"), ("emptyv;", "\u2205"), ("emsp13;", "\u2004"),
   ("emsp14;", "\u2005"), ("emsp;", "\u2003"), ("eng;", "\u014b"), ("ensp;", "\u2002"),
   ("eogon;", "\u0119"), ("eopf;", "𝕖"), ("epar;", "\u22d5"), ("eparsl;", "\u29e3"),
   ("eplus;", "\u2a71"), ("epsi;", "\u03b5"), ("epsilon;", "\u03b5"), ("epsiv;", "\u03f5"),
   ("eqcirc;", "\u2256"), ("eqcolon;", "\u2255"), ("eqsim;", "\u2242"),
   ("eqslantgtr;", "\u2a96"), ("eqslantless;", "\u2a95"), ("equals;", "="),
   ("equest;", "\u225f"), ("equiv;", "\u2261"), ("equivDD;", "\u2a78"),
   ("eqvparsl;", "\u29e5"), ("erDot;", "\u2253"), ("erarr;", "\u2971"), ("escr;", "\u212f"),
   ("esdot;", "\u2250"), ("esim;", "\u2242"), ("eta;", "\u03b7"), ("eth", "\u00f0"),
   ("eth;", "\u00f0"), ("euml", "\u00eb"), ("euml;", "\u00eb"), ("euro;", "\u20ac"),
   ("excl;", "!"), ("exist;", "\u2203"), ("expectation;", "\u2130"),
   ("exponentiale;", "\u2147")]

/-- Names that begin with `f`. -/
def lowerF : List (String × String) :=
  [("fallingdotseq;", "\u2252"), ("fcy;", "\u0444"), ("female;", "\u2640"),
   ("ffilig;", "\ufb03"), ("fflig;", "\ufb00"), ("ffllig;", "\ufb04"), ("ffr;", "𝔣"),
   ("filig;", "\ufb01"), ("fjlig;", "fj"), ("flat;", "\u266d"), ("fllig;", "\ufb02"),
   ("fltns;", "\u25b1"), ("fnof;", "\u0192"), ("fopf;", "𝕗"), ("forall;", "\u2200"),
   ("fork;", "\u22d4"), ("forkv;", "\u2ad9"), ("fpartint;", "\u2a0d"), ("frac12", "\u00bd"),
   ("frac12;", "\u00bd"), ("frac13;", "\u2153"), ("frac14", "\u00bc"),
   ("frac14;", "\u00bc"), ("frac15;", "\u2155"), ("frac16;", "\u2159"),
   ("frac18;", "\u215b"), ("frac23;", "\u2154"), ("frac25;", "\u2156"),
   ("frac34", "\u00be"), ("frac34;", "\u00be"), ("frac35;", "\u2157"),
   ("frac38;", "\u215c"), ("frac45;", "\u2158"), ("frac56;", "\u215a"),
   ("frac58;", "\u215d"), ("frac78;", "\u215e"), ("frasl;", "\u2044"), ("frown;", "\u2322"),
   ("fscr;", "𝒻")]

/-- Names that begin with `g`. -/
def lowerG : List (String × String) :=
  [("gE;", "\u2267"), ("gEl;", "\u2a8c"), ("gacute;", "\u01f5"), ("gamma;", "\u03b3"),
   ("gammad;", "\u03dd"), ("gap;", "\u2a86"), ("gbreve;", "\u011f"), ("gcirc;", "\u011d"),
   ("gcy;", "\u0433"), ("gdot;", "\u0121"), ("ge;", "\u2265"), ("gel;", "\u22db"),
   ("geq;", "\u2265"), ("geqq;", "\u2267"), ("geqslant;", "\u2a7e"), ("ges;", "\u2a7e"),
   ("gescc;", "\u2aa9"), ("gesdot;", "\u2a80"), ("gesdoto;", "\u2a82"),
   ("gesdotol;", "\u2a84"), ("gesl;", "\u22db\ufe00"), ("gesles;", "\u2a94"), ("gfr;", "𝔤"),
   ("gg;", "\u226b"), ("ggg;", "\u22d9"), ("gimel;", "\u2137"), ("gjcy;", "\u0453"),
   ("gl;", "\u2277"), ("glE;", "\u2a92"), ("gla;", "\u2aa5"), ("glj;", "\u2aa4"),
   ("gnE;", "\u2269"), ("gnap;", "\u2a8a"), ("gnapprox;", "\u2a8a"), ("gne;", "\u2a88"),
   ("gneq;", "\u2a88"), ("gneqq;", "\u2269"), ("gnsim;", "\u22e7"), ("gopf;", "𝕘"),
   ("grave;", "`"), ("gscr;", "\u210a"), ("gsim;", "\u2273"), ("gsime;", "\u2a8e"),
   ("gsiml;", "\u2a90"), ("gt", ">"), ("gt;", ">"), ("gtcc;", "\u2aa7"),
   ("gtcir;", "\u2a7a"), ("gtdot;", "\u22d7"), ("gtlPar;", "\u2995"),
   ("gtquest;", "\u2a7c"), ("gtrapprox;", "\u2a86"), ("gtrarr;", "\u2978"),
   ("gtrdot;", "\u22d7"), ("gtreqless;", "\u22db"), ("gtreqqless;", "\u2a8c"),
   ("gtrless;", "\u2277"), ("gtrsim;", "\u2273"), ("gvertneqq;", "\u2269\ufe00"),
   ("gvnE;", "\u2269\ufe00")]

/-- Names that begin with `h`. -/
def lowerH : List (String × String) :=
  [("hArr;", "\u21d4"), ("hairsp;", "\u200a"), ("half;", "\u00bd"), ("hamilt;", "\u210b"),
   ("hardcy;", "\u044a"), ("harr;", "\u2194"), ("harrcir;", "\u2948"), ("harrw;", "\u21ad"),
   ("hbar;", "\u210f"), ("hcirc;", "\u0125"), ("hearts;", "\u2665"),
   ("heartsuit;", "\u2665"), ("hellip;", "\u2026"), ("hercon;", "\u22b9"), ("hfr;", "𝔥"),
   ("hksearow;", "\u2925"), ("hkswarow;", "\u2926"), ("hoarr;", "\u21ff"),
   ("homtht;", "\u223b"), ("hookleftarrow;", "\u21a9"), ("hookrightarrow;", "\u21aa"),
   ("hopf;", "𝕙"), ("horbar;", "\u2015"), ("hscr;", "𝒽"), ("hslash;", "\u210f"),
   ("hstrok;", "\u0127"), ("hybull;", "\u2043"), ("hyphen;", "\u2010")]

/-- Names that begin with `i`. -/
def lowerI : List (String × String) :=
  [("iacute", "\u00ed"), ("iacute;", "\u00ed"), ("ic;", "\u2063"), ("icirc", "\u00ee"),
   ("icirc;", "\u00ee"), ("icy;", "\u0438"), ("iecy;", "\u0435"), ("iexcl", "\u00a1"),
   ("iexcl;", "\u00a1"), ("iff;", "\u21d4"), ("ifr;", "𝔦"), ("igrave", "\u00ec"),
   ("igrave;", "\u00ec"), ("ii;", "\u2148"), ("iiiint;", "\u2a0c"), ("iiint;", "\u222d"),
   ("iinfin;", "\u29dc"), ("iiota;", "\u2129"), ("ijlig;", "\u0133"), ("imacr;", "\u012b"),
   ("image;", "\u2111"), ("imagline;", "\u2110"), ("imagpart;", "\u2111"),
   ("imath;", "\u0131"), ("imof;", "\u22b7"), ("imped;", "\u01b5"), ("in;", "\u2208"),
   ("incare;", "\u2105"), ("infin;", "\u221e"), ("infintie;", "\u29dd"),
   ("inodot;", "\u0131"), ("int;", "\u222b"), ("intcal;", "\u22ba"),
   ("integers;", "\u2124"), ("intercal;", "\u22ba"), ("intlarhk;", "\u2a17"),
   ("intprod;", "\u2a3c"), ("iocy;", "\u0451"), ("iogon;", "\u012f"), ("iopf;", "𝕚"),
   ("iota;", "\u03b9"), ("iprod;", "\u2a3c"), ("iquest", "\u00bf"), ("iquest;", "\u00bf"),
   ("iscr;", "𝒾"), ("isin;", "\u2208"), ("isinE;", "\u22f9"), ("isindot;", "\u22f5"),
   ("isins;", "\u22f4"), ("isinsv;", "\u22f3"), ("isinv;", "\u2208"), ("it;", "\u2062"),
   ("itilde;", "\u0129"), ("iukcy;", "\u0456"), ("iuml", "\u00ef"), ("iuml;", "\u00ef")]

/-- Names that begin with `j`. -/
def lowerJ : List (String × String) :=
  [("jcirc;", "\u0135"), ("jcy;", "\u0439"), ("jfr;", "𝔧"), ("jmath;", "\u0237"),
   ("jopf;", "𝕛"), ("jscr;", "𝒿"), ("jsercy;", "\u0458"), ("jukcy;", "\u0454")]

/-- Names that begin with `k`. -/
def lowerK : List (String × String) :=
  [("kappa;", "\u03ba"), ("kappav;", "\u03f0"), ("kcedil;", "\u0137"), ("kcy;", "\u043a"),
   ("kfr;", "𝔨"), ("kgreen;", "\u0138"), ("khcy;", "\u0445"), ("kjcy;", "\u045c"),
   ("kopf;", "𝕜"), ("kscr;", "𝓀")]

/-- Names that begin with `l`. -/
def lowerL : List (String × String) :=
  [("lAarr;", "\u21da"), ("lArr;", "\u21d0"), ("lAtail;", "\u291b"), ("lBarr;", "\u290e"),
   ("lE;", "\u2266"), ("lEg;", "\u2a8b"), ("lHar;", "\u2962"), ("lacute;", "\u013a"),
   ("laemptyv;", "\u29b4"), ("lagran;", "\u2112"), ("lambda;", "\u03bb"),
   ("lang;", "\u27e8"), ("langd;", "\u2991"), ("langle;", "\u27e8"), ("lap;", "\u2a85"),
   ("laquo", "\u00ab"), ("laquo;", "\u00ab"), ("larr;", "\u2190"), ("larrb;", "\u21e4"),
   ("larrbfs;", "\u291f"), ("larrfs;", "\u291d"), ("larrhk;", "\u21a9"),
   ("larrlp;", "\u21ab"), ("larrpl;", "\u2939"), ("larrsim;", "\u2973"),
   ("larrtl;", "\u21a2"), ("lat;", "\u2aab"), ("latail;", "\u2919"), ("late;", "\u2aad"),
   ("lates;", "\u2aad\ufe00"), ("lbarr;", "\u290c"), ("lbbrk;", "\u2772"),
   ("lbrace;", "\x7b"), ("lbrack;", "["), ("lbrke;", "\u298b"), ("lbrksld;", "\u298f"),
   ("lbrkslu;", "\u298d"), ("lcaron;", "\u013e"), ("lcedil;", "\u013c"),
   ("lceil;", "\u2308"), ("lcub;", "\x7b"), ("lcy;", "\u043b"), ("ldca;", "\u2936"),
   ("ldquo;", "\u201c"), ("ldquor;", "\u201e"), ("ldrdhar;", "\u2967"),
   ("ldrushar;", "\u294b"), ("ldsh;", "\u21b2"), ("le;", "\u2264"),
   ("leftarrow;", "\u2190"), ("leftarrowtail;", "\u21a2"), ("leftharpoondown;", "\u21bd"),
   ("leftharpoonup;", "\u21bc"), ("leftleftarrows;", "\u21c7"),
   ("leftrightarrow;", "\u2194"), ("leftrightarrows;", "\u21c6"),
   ("leftrightharpoons;", "\u21cb"), ("leftrightsquigarrow;", "\u21ad"),
   ("leftthreetimes;", "\u22cb"), ("leg;", "\u22da"), ("leq;", "\u2264"),
   ("leqq;", "\u2266"), ("leqslant;", "\u2a7d"), ("les;", "\u2a7d"), ("lescc;", "\u2aa8"),
   ("lesdot;", "\u2a7f"), ("lesdoto;", "\u2a81"), ("lesdotor;", "\u2a83"),
   ("lesg;", "\u22da\ufe00"), ("lesges;", "\u2a93"), ("lessapprox;", "\u2a85"),
   ("lessdot;", "\u22d6"), ("lesseqgtr;", "\u22da"), ("lesseqqgtr;", "\u2a8b"),
   ("lessgtr;", "\u2276"), ("lesssim;", "\u2272"), ("lfisht;", "\u297c"),
   ("lfloor;", "\u230a"), ("lfr;", "𝔩"), ("lg;", "\u2276"), ("lgE;", "\u2a91"),
   ("lhard;", "\u21bd"), ("lharu;", "\u21bc"), ("lharul;", "\u296a"), ("lhblk;", "\u2584"),
   ("ljcy;", "\u0459"), ("ll;", "\u226a"), ("llarr;", "\u21c7"), ("llcorner;", "\u231e"),
   ("llhard;", "\u296b"), ("lltri;", "\u25fa"), ("lmidot;", "\u0140"),
   ("lmoust;", "\u23b0"), ("lmoustache;", "\u23b0"), ("lnE;", "\u2268"),
   ("lnap;", "\u2a89"), ("lnapprox;", "\u2a89"), ("lne;", "\u2a87"), ("lneq;", "\u2a87"),
   ("lneqq;", "\u2268"), ("lnsim;", "\u22e6"), ("loang;", "\u27ec"), ("loarr;", "\u21fd"),
   ("lobrk;", "\u27e6"), ("longleftarrow;", "\u27f5"), ("longleftrightarrow;", "\u27f7"),
   ("longmapsto;", "\u27fc"), ("longrightarrow;", "\u27f6"), ("looparrowleft;", "\u21ab"),
   ("looparrowright;", "\u21ac"), ("lopar;", "\u2985"), ("lopf;", "𝕝"),
   ("loplus;", "\u2a2d"), ("lotimes;", "\u2a34"), ("lowast;", "\u2217"), ("lowbar;", "_"),
   ("loz;", "\u25ca"), ("lozenge;", "\u25ca"), ("lozf;", "\u29eb"), ("lpar;", "("),
   ("lparlt;", "\u2993"), ("lrarr;", "\u21c6"), ("lrcorner;", "\u231f"),
   ("lrhar;", "\u21cb"), ("lrhard;", "\u296d"), ("lrm;", "\u200e"), ("lrtri;", "\u22bf"),
   ("lsaquo;", "\u2039"), ("lscr;", "𝓁"), ("lsh;", "\u21b0"), ("lsim;", "\u2272"),
   ("lsime;", "\u2a8d"), ("lsimg;", "\u2a8f"), ("lsqb;", "["), ("lsquo;", "\u2018"),
   ("lsquor;", "\u201a"), ("lstrok;", "\u0142"), ("lt", "<"), ("lt;", "<"),
   ("ltcc;", "\u2aa6"), ("ltcir;", "\u2a79"), ("ltdot;", "\u22d6"), ("lthree;", "\u22cb"),
   ("ltimes;", "\u22c9"), ("ltlarr;", "\u2976"), ("ltquest;", "\u2a7b"),
   ("ltrPar;", "\u2996"), ("ltri;", "\u25c3"), ("ltrie;", "\u22b4"), ("ltrif;", "\u25c2"),
   ("lurdshar;", "\u294a"), ("luruhar;", "\u2966"), ("lvertneqq;", "\u2268\ufe00"),
   ("lvnE;", "\u2268\ufe00")]

/-- Names that begin with `m`. -/
def lowerM : List (String × String) :=
  [("mDDot;", "\u223a"), ("macr", "\u00af"), ("macr;", "\u00af"), ("male;", "\u2642"),
   ("malt;", "\u2720"), ("maltese;", "\u2720"), ("map;", "\u21a6"), ("mapsto;", "\u21a6"),
   ("mapstodown;", "\u21a7"), ("mapstoleft;", "\u21a4"), ("mapstoup;", "\u21a5"),
   ("marker;", "\u25ae"), ("mcomma;", "\u2a29"), ("mcy;", "\u043c"), ("mdash;", "\u2014"),
   ("measuredangle;", "\u2221"), ("mfr;", "𝔪"), ("mho;", "\u2127"), ("micro", "\u00b5"),
   ("micro;", "\u00b5"), ("mid;", "\u2223"), ("midast;", "*"), ("midcir;", "\u2af0"),
   ("middot", "\u00b7"), ("middot;", "\u00b7"), ("minus;", "\u2212"), ("minusb;", "\u229f"),
   ("minusd;", "\u2238"), ("minusdu;", "\u2a2a"), ("mlcp;", "\u2adb"), ("mldr;", "\u2026"),
   ("mnplus;", "\u2213"), ("models;", "\u22a7"), ("mopf;", "𝕞"), ("mp;", "\u2213"),
   ("mscr;", "𝓂"), ("mstpos;", "\u223e"), ("mu;", "\u03bc"), ("multimap;", "\u22b8"),
   ("mumap;", "\u22b8")]

/-- Names that begin with `n`. -/
def lowerN : List (String × String) :=
  [("nGg;", "\u22d9\u0338"), ("nGt;", "\u226b\u20d2"), ("nGtv;", "\u226b\u0338"),
   ("nLeftarrow;", "\u21cd"), ("nLeftrightarrow;", "\u21ce"), ("nLl;", "\u22d8\u0338"),
   ("nLt;", "\u226a\u20d2"), ("nLtv;", "\u226a\u0338"), ("nRightarrow;", "\u21cf"),
   ("nVDash;", "\u22af"), ("nVdash;", "\u22ae"), ("nabla;", "\u2207"),
   ("nacute;", "\u0144"), ("nang;", "\u2220\u20d2"), ("nap;", "\u2249"),
   ("napE;", "\u2a70\u0338"), ("napid;", "\u224b\u0338"), ("napos;", "\u0149"),
   ("napprox;", "\u2249"), ("natur;", "\u266e"), ("natural;", "\u266e"),
   ("naturals;", "\u2115"), ("nbsp", "\u00a0"), ("nbsp;", "\u00a0"),
   ("nbump;", "\u224e\u0338"), ("nbumpe;", "\u224f\u0338"), ("ncap;", "\u2a43"),
   ("ncaron;", "\u0148"), ("ncedil;", "\u0146"), ("ncong;", "\u2247"),
   ("ncongdot;", "\u2a6d\u0338"), ("ncup;", "\u2a42"), ("ncy;", "\u043d"),
   ("ndash;", "\u2013"), ("ne;", "\u2260"), ("neArr;", "\u21d7"), ("nearhk;", "\u2924"),
   ("nearr;", "\u2197"), ("nearrow;", "\u2197"), ("nedot;", "\u2250\u0338"),
   ("nequiv;", "\u2262"), ("nesear;", "\u2928"), ("nesim;", "\u2242\u0338"),
   ("nexist;", "\u2204"), ("nexists;", "\u2204"), ("nfr;", "𝔫"), ("ngE;", "\u2267\u0338"),
   ("nge;", "\u2271"), ("ngeq;", "\u2271"), ("ngeqq;", "\u2267\u0338"),
   ("ngeqslant;", "\u2a7e\u0338"), ("nges;", "\u2a7e\u0338"), ("ngsim;", "\u2275"),
   ("ngt;", "\u226f"), ("ngtr;", "\u226f"), ("nhArr;", "\u21ce"), ("nharr;", "\u21ae"),
   ("nhpar;", "\u2af2"), ("ni;", "\u220b"), ("nis;", "\u22fc"), ("nisd;", "\u22fa"),
   ("niv;", "\u220b"), ("njcy;", "\u045a"), ("nlArr;", "\u21cd"), ("nlE;", "\u2266\u0338"),
   ("nlarr;", "\u219a"), ("nldr;", "\u2025"), ("nle;", "\u2270"), ("nleftarrow;", "\u219a"),
   ("nleftrightarrow;", "\u21ae"), ("nleq;", "\u2270"), ("nleqq;", "\u2266\u0338"),
   ("nleqslant;", "\u2a7d\u0338"), ("nles;", "\u2a7d\u0338"), ("nless;", "\u226e"),
   ("nlsim;", "\u2274"), ("nlt;", "\u226e"), ("nltri;", "\u22ea"), ("nltrie;", "\u22ec"),
   ("nmid;", "\u2224"), ("nopf;", "𝕟"), ("not", "\u00ac"), ("not;", "\u00ac"),
   ("notin;", "\u2209"), ("notinE;", "\u22f9\u0338"), ("notindot;", "\u22f5\u0338"),
   ("notinva;", "\u2209"), ("notinvb;", "\u22f7"), ("notinvc;", "\u22f6"),
   ("notni;", "\u220c"), ("notniva;", "\u220c"), ("notnivb;", "\u22fe"),
   ("notnivc;", "\u22fd"), ("npar;", "\u2226"), ("nparallel;", "\u2226"),
   ("nparsl;", "\u2afd\u20e5"), ("npart;", "\u2202\u0338"), ("npolint;", "\u2a14"),
   ("npr;", "\u2280"), ("nprcue;", "\u22e0"), ("npre;", "\u2aaf\u0338"),
   ("nprec;", "\u2280"), ("npreceq;", "\u2aaf\u0338"), ("nrArr;", "\u21cf"),
   ("nrarr;", "\u219b"), ("nrarrc;", "\u2933\u0338"), ("nrarrw;", "\u219d\u0338"),
   ("nrightarrow;", "\u219b"), ("nrtri;", "\u22eb"), ("nrtrie;", "\u22ed"),
   ("nsc;", "\u2281"), ("nsccue;", "\u22e1"), ("nsce;", "\u2ab0\u0338"), ("nscr;", "𝓃"),
   ("nshortmid;", "\u2224"), ("nshortparallel;", "\u2226"), ("nsim;", "\u2241"),
   ("nsime;", "\u2244"), ("nsimeq;", "\u2244"), ("nsmid;", "\u2224"), ("nspar;", "\u2226"),
   ("nsqsube;", "\u22e2"), ("nsqsupe;", "\u22e3"), ("nsub;", "\u2284"),
   ("nsubE;", "\u2ac5\u0338"), ("nsube;", "\u2288"), ("nsubset;", "\u2282\u20d2"),
   ("nsubseteq;", "\u2288"), ("nsubseteqq;", "\u2ac5\u0338"), ("nsucc;", "\u2281"),
   ("nsucceq;", "\u2ab0\u0338"), ("nsup;", "\u2285"), ("nsupE;", "\u2ac6\u0338"),
   ("nsupe;", "\u2289"), ("nsupset;", "\u2283\u20d2"), ("nsupseteq;", "\u2289"),
   ("nsupseteqq;", "\u2ac6\u0338"), ("ntgl;", "\u2279"), ("ntilde", "\u00f1"),
   ("ntilde;", "\u00f1"), ("ntlg;", "\u2278"), ("ntriangleleft;", "\u22ea"),
   ("ntrianglelefteq;", "\u22ec"), ("ntriangleright;", "\u22eb"),
   ("ntrianglerighteq;", "\u22ed"), ("nu;", "\u03bd"), ("num;", "#"), ("numero;", "\u2116"),
   ("numsp;", "\u2007"), ("nvDash;", "\u22ad"), ("nvHarr;", "\u2904"),
   ("nvap;", "\u224d\u20d2"), ("nvdash;", "\u22ac"), ("nvge;", "\u2265\u20d2"),
   ("nvgt;", ">\u20d2"), ("nvinfin;", "\u29de"), ("nvlArr;", "\u2902"),
   ("nvle;", "\u2264\u20d2"), ("nvlt;", "<\u20d2"), ("nvltrie;", "\u22b4\u20d2"),
   ("nvrArr;", "\u2903"), ("nvrtrie;", "\u22b5\u20d2"), ("nvsim;", "\u223c\u20d2"),
   ("nwArr;", "\u21d6"), ("nwarhk;", "\u2923"), ("nwarr;", "\u2196"),
   ("nwarrow;", "\u2196"), ("nwnear;", "\u2927")]

/-- Names that begin with `o`. -/
def lowerO : List (String × String) :=
  [("oS;", "\u24c8"), ("oacute", "\u00f3"), ("oacute;", "\u00f3"), ("oast;", "\u229b"),
   ("ocir;", "\u229a"), ("ocirc", "\u00f4"), ("ocirc;", "\u00f4"), ("ocy;", "\u043e"),
   ("odash;", "\u229d"), ("odblac;", "\u0151"), ("odiv;", "\u2a38"), ("odot;", "\u2299"),
   ("odsold;", "\u29bc"), ("oelig;", "\u0153"), ("ofcir;", "\u29bf"), ("ofr;", "𝔬"),
   ("ogon;", "\u02db"), ("ograve", "\u00f2"), ("ograve;", "\u00f2"), ("ogt;", "\u29c1"),
   ("ohbar;", "\u29b5"), ("ohm;", "\u03a9"), ("oint;", "\u222e"), ("olarr;", "\u21ba"),
   ("olcir;", "\u29be"), ("olcross;", "\u29bb"), ("oline;", "\u203e"), ("olt;", "\u29c0"),
   ("omacr;", "\u014d"), ("omega;", "\u03c9"), ("omicron;", "\u03bf"), ("omid;", "\u29b6"),
   ("ominus;", "\u2296"), ("oopf;", "𝕠"), ("opar;", "\u29b7"), ("operp;", "\u29b9"),
   ("oplus;", "\u2295"), ("or;", "\u2228"), ("orarr;", "\u21bb"), ("ord;", "\u2a5d"),
   ("order;", "\u2134"), ("orderof;", "\u2134"), ("ordf", "\u00aa"), ("ordf;", "\u00aa"),
   ("ordm", "\u00ba"), ("ordm;", "\u00ba"), ("origof;", "\u22b6"), ("oror;", "\u2a56"),
   ("orslope;", "\u2a57"), ("orv;", "\u2a5b"), ("oscr;", "\u2134"), ("oslash", "\u00f8"),
   ("oslash;", "\u00f8"), ("osol;", "\u2298"), ("otilde", "\u00f5"), ("otilde;", "\u00f5"),
   ("otimes;", "\u2297"), ("otimesas;", "\u2a36"), ("ouml", "\u00f6"), ("ouml;", "\u00f6"),
   ("ovbar;", "\u233d")]

/-- Names that begin with `p`. -/
def lowerP : List (String × String) :=
  [("par;", "\u2225"), ("para", "\u00b6"), ("para;", "\u00b6"), ("parallel;", "\u2225"),
   ("parsim;", "\u2af3"), ("parsl;", "\u2afd"), ("part;", "\u2202"), ("pcy;", "\u043f"),
   ("percnt;", "%"), ("period;", "."), ("permil;", "\u2030"), ("perp;", "\u22a5"),
   ("pertenk;", "\u2031"), ("pfr;", "𝔭"), ("phi;", "\u03c6"), ("phiv;", "\u03d5"),
   ("phmmat;", "\u2133"), ("phone;", "\u260e"), ("pi;", "\u03c0"), ("pitchfork;", "\u22d4"),
   ("piv;", "\u03d6"), ("planck;", "\u210f"), ("planckh;", "\u210e"), ("plankv;", "\u210f"),
   ("plus;", "+"), ("plusacir;", "\u2a23"), ("plusb;", "\u229e"), ("pluscir;", "\u2a22"),
   ("plusdo;", "\u2214"), ("plusdu;", "\u2a25"), ("pluse;", "\u2a72"), ("plusmn", "\u00b1"),
   ("plusmn;", "\u00b1"), ("plussim;", "\u2a26"), ("plustwo;", "\u2a27"), ("pm;", "\u00b1"),
   ("pointint;", "\u2a15"), ("popf;", "𝕡"), ("pound", "\u00a3"), ("pound;", "\u00a3"),
   ("pr;", "\u227a"), ("prE;", "\u2ab3"), ("prap;", "\u2ab7"), ("prcue;", "\u227c"),
   ("pre;", "\u2aaf"), ("prec;", "\u227a"), ("precapprox;", "\u2ab7"),
   ("preccurlyeq;", "\u227c"), ("preceq;", "\u2aaf"), ("precnapprox;", "\u2ab9"),
   ("precneqq;", "\u2ab5"), ("precnsim;", "\u22e8"), ("precsim;", "\u227e"),
   ("prime;", "\u2032"), ("primes;", "\u2119"), ("prnE;", "\u2ab5"), ("prnap;", "\u2ab9"),
   ("prnsim;", "\u22e8"), ("prod;", "\u220f"), ("profalar;", "\u232e"),
   ("profline;", "\u2312"), ("profsurf;", "\u2313"), ("prop;", "\u221d"),
   ("propto;", "\u221d"), ("prsim;", "\u227e"), ("prurel;", "\u22b0"), ("pscr;", "𝓅"),
   ("psi;", "\u03c8"), ("puncsp;", "\u2008")]

/-- Names that begin with `q`. -/
def lowerQ : List (String × String) :=
  [("qfr;", "𝔮"), ("qint;", "\u2a0c"), ("qopf;", "𝕢"), ("qprime;", "\u2057"), ("qscr;", "𝓆"),
   ("quaternions;", "\u210d"), ("quatint;", "\u2a16"), ("quest;", "?"),
   ("questeq;", "\u225f"), ("quot", "\""), ("quot;", "\"")]

/-- Names that begin with `r`. -/
def lowerR : List (String × String) :=
  [("rAarr;", "\u21db"), ("rArr;", "\u21d2"), ("rAtail;", "\u291c"), ("rBarr;", "\u290f"),
   ("rHar;", "\u2964"), ("race;", "\u223d\u0331"), ("racute;", "\u0155"),
   ("radic;", "\u221a"), ("raemptyv;", "\u29b3"), ("rang;", "\u27e9"), ("rangd;", "\u2992"),
   ("range;", "\u29a5"), ("rangle;", "\u27e9"), ("raquo", "\u00bb"), ("raquo;", "\u00bb"),
   ("rarr;", "\u2192"), ("rarrap;", "\u2975"), ("rarrb;", "\u21e5"), ("rarrbfs;", "\u2920"),
   ("rarrc;", "\u2933"), ("rarrfs;", "\u291e"), ("rarrhk;", "\u21aa"),
   ("rarrlp;", "\u21ac"), ("rarrpl;", "\u2945"), ("rarrsim;", "\u2974"),
   ("rarrtl;", "\u21a3"), ("rarrw;", "\u219d"), ("ratail;", "\u291a"), ("ratio;", "\u2236"),
   ("rationals;", "\u211a"), ("rbarr;", "\u290d"), ("rbbrk;", "\u2773"),
   ("rbrace;", "\x7d"), ("rbrack;", "]"), ("rbrke;", "\u298c"), ("rbrksld;", "\u298e"),
   ("rbrkslu;", "\u2990"), ("rcaron;", "\u0159"), ("rcedil;", "\u0157"),
   ("rceil;", "\u2309"), ("rcub;", "\x7d"), ("rcy;", "\u0440"), ("rdca;", "\u2937"),
   ("rdldhar;", "\u2969"), ("rdquo;", "\u201d"), ("rdquor;", "\u201d"), ("rdsh;", "\u21b3"),
   ("real;", "\u211c"), ("realine;", "\u211b"), ("realpart;", "\u211c"),
   ("reals;", "\u211d"), ("rect;", "\u25ad"), ("reg", "\u00ae"), ("reg;", "\u00ae"),
   ("rfisht;", "\u297d"), ("rfloor;", "\u230b"), ("rfr;", "𝔯"), ("rhard;", "\u21c1"),
   ("rharu;", "\u21c0"), ("rharul;", "\u296c"), ("rho;", "\u03c1"), ("rhov;", "\u03f1"),
   ("rightarrow;", "\u2192"), ("rightarrowtail;", "\u21a3"),
   ("rightharpoondown;", "\u21c1"), ("rightharpoonup;", "\u21c0"),
   ("rightleftarrows;", "\u21c4"), ("rightleftharpoons;", "\u21cc"),
   ("rightrightarrows;", "\u21c9"), ("rightsquigarrow;", "\u219d"),
   ("rightthreetimes;", "\u22cc"), ("ring;", "\u02da"), ("risingdotseq;", "\u2253"),
   ("rlarr;", "\u21c4"), ("rlhar;", "\u21cc"), ("rlm;", "\u200f"), ("rmoust;", "\u23b1"),
   ("rmoustache;", "\u23b1"), ("rnmid;", "\u2aee"), ("roang;", "\u27ed"),
   ("roarr;", "\u21fe"), ("robrk;", "\u27e7"), ("ropar;", "\u2986"), ("ropf;", "𝕣"),
   ("roplus;", "\u2a2e"), ("rotimes;", "\u2a35"), ("rpar;", ")"), ("rpargt;", "\u2994"),
   ("rppolint;", "\u2a12"), ("rrarr;", "\u21c9"), ("rsaquo;", "\u203a"), ("rscr;", "𝓇"),
   ("rsh;", "\u21b1"), ("rsqb;", "]"), ("rsquo;", "\u2019"), ("rsquor;", "\u2019"),
   ("rthree;", "\u22cc"), ("rtimes;", "\u22ca"), ("rtri;", "\u25b9"), ("rtrie;", "\u22b5"),
   ("rtrif;", "\u25b8"), ("rtriltri;", "\u29ce"), ("ruluhar;", "\u2968"), ("rx;", "\u211e")]

/-- Names that begin with `s`. -/
def lowerS : List (String × String) :=
  [("sacute;", "\u015b"), ("sbquo;", "\u201a"), ("sc;", "\u227b"), ("scE;", "\u2ab4"),
   ("scap;", "\u2ab8"), ("scaron;", "\u0161"), ("sccue;", "\u227d"), ("sce;", "\u2ab0"),
   ("scedil;", "\u015f"), ("scirc;", "\u015d"), ("scnE;", "\u2ab6"), ("scnap;", "\u2aba"),
   ("scnsim;", "\u22e9"), ("scpolint;", "\u2a13"), ("scsim;", "\u227f"), ("scy;", "\u0441"),
   ("sdot;", "\u22c5"), ("sdotb;", "\u22a1"), ("sdote;", "\u2a66"), ("seArr;", "\u21d8"),
   ("searhk;", "\u2925"), ("searr;", "\u2198"), ("searrow;", "\u2198"), ("sect", "\u00a7"),
   ("sect;", "\u00a7"), ("semi;", ";"), ("seswar;", "\u2929"), ("setminus;", "\u2216"),
   ("setmn;", "\u2216"), ("sext;", "\u2736"), ("sfr;", "𝔰"), ("sfrown;", "\u2322"),
   ("sharp;", "\u266f"), ("shchcy;", "\u0449"), ("shcy;", "\u0448"),
   ("shortmid;", "\u2223"), ("shortparallel;", "\u2225"), ("shy", "\u00ad"),
   ("shy;", "\u00ad"), ("sigma;", "\u03c3"), ("sigmaf;", "\u03c2"), ("sigmav;", "\u03c2"),
   ("sim;", "\u223c"), ("simdot;", "\u2a6a"), ("sime;", "\u2243"), ("simeq;", "\u2243"),
   ("simg;", "\u2a9e"), ("simgE;", "\u2aa0"), ("siml;", "\u2a9d"), ("simlE;", "\u2a9f"),
   ("simne;", "\u2246"), ("simplus;", "\u2a24"), ("simrarr;", "\u2972"),
   ("slarr;", "\u2190"), ("smallsetminus;", "\u2216"), ("smashp;", "\u2a33"),
   ("smeparsl;", "\u29e4"), ("smid;", "\u2223"), ("smile;", "\u2323"), ("smt;", "\u2aaa"),
   ("smte;", "\u2aac"), ("smtes;", "\u2aac\ufe00"), ("softcy;", "\u044c"), ("sol;", "/"),
   ("solb;", "\u29c4"), ("solbar;", "\u233f"), ("sopf;", "𝕤"), ("spades;", "\u2660"),
   ("spadesuit;", "\u2660"), ("spar;", "\u2225"), ("sqcap;", "\u2293"),
   ("sqcaps;", "\u2293\ufe00"), ("sqcup;", "\u2294"), ("sqcups;", "\u2294\ufe00"),
   ("sqsub;", "\u228f"), ("sqsube;", "\u2291"), ("sqsubset;", "\u228f"),
   ("sqsubseteq;", "\u2291"), ("sqsup;", "\u2290"), ("sqsupe;", "\u2292"),
   ("sqsupset;", "\u2290"), ("sqsupseteq;", "\u2292"), ("squ;", "\u25a1"),
   ("square;", "\u25a1"), ("squarf;", "\u25aa"), ("squf;", "\u25aa"), ("srarr;", "\u2192"),
   ("sscr;", "𝓈"), ("ssetmn;", "\u2216"), ("ssmile;", "\u2323"), ("sstarf;", "\u22c6"),
   ("star;", "\u2606"), ("starf;", "\u2605"), ("straightepsilon;", "\u03f5"),
   ("straightphi;", "\u03d5"), ("strns;", "\u00af"), ("sub;", "\u2282"),
   ("subE;", "\u2ac5"), ("subdot;", "\u2abd"), ("sube;", "\u2286"), ("subedot;", "\u2ac3"),
   ("submult;", "\u2ac1"), ("subnE;", "\u2acb"), ("subne;", "\u228a"),
   ("subplus;", "\u2abf"), ("subrarr;", "\u2979"), ("subset;", "\u2282"),
   ("subseteq;", "\u2286"), ("subseteqq;", "\u2ac5"), ("subsetneq;", "\u228a"),
   ("subsetneqq;", "\u2acb"), ("subsim;", "\u2ac7"), ("subsub;", "\u2ad5"),
   ("subsup;", "\u2ad3"), ("succ;", "\u227b"), ("succapprox;", "\u2ab8"),
   ("succcurlyeq;", "\u227d"), ("succeq;", "\u2ab0"), ("succnapprox;", "\u2aba"),
   ("succneqq;", "\u2ab6"), ("succnsim;", "\u22e9"), ("succsim;", "\u227f"),
   ("sum;", "\u2211"), ("sung;", "\u266a"), ("sup1", "\u00b9"), ("sup1;", "\u00b9"),
   ("sup2", "\u00b2"), ("sup2;", "\u00b2"), ("sup3", "\u00b3"), ("sup3;", "\u00b3"),
   ("sup;", "\u2283"), ("supE;", "\u2ac6"), ("supdot;", "\u2abe"), ("supdsub;", "\u2ad8"),
   ("supe;", "\u2287"), ("supedot;", "\u2ac4"), ("suphsol;", "\u27c9"),
   ("suphsub;", "\u2ad7"), ("suplarr;", "\u297b"), ("supmult;", "\u2ac2"),
   ("supnE;", "\u2acc"), ("supne;", "\u228b"), ("supplus;", "\u2ac0"),
   ("supset;", "\u2283"), ("supseteq;", "\u2287"), ("supseteqq;", "\u2ac6"),
   ("supsetneq;", "\u228b"), ("supsetneqq;", "\u2acc"), ("supsim;", "\u2ac8"),
   ("supsub;", "\u2ad4"), ("supsup;", "\u2ad6"), ("swArr;", "\u21d9"),
   ("swarhk;", "\u2926"), ("swarr;", "\u2199"), ("swarrow;", "\u2199"),
   ("swnwar;", "\u292a"), ("szlig", "\u00df"), ("szlig;", "\u00df")]

/-- Names that begin with `t`. -/
def lowerT : List (String × String) :=
  [("target;", "\u2316"), ("tau;", "\u03c4"), ("tbrk;", "\u23b4"), ("tcaron;", "\u0165"),
   ("tcedil;", "\u0163"), ("tcy;", "\u0442"), ("tdot;", "\u20db"), ("telrec;", "\u2315"),
   ("tfr;", "𝔱"), ("there4;", "\u2234"), ("therefore;", "\u2234"), ("theta;", "\u03b8"),
   ("thetasym;", "\u03d1"), ("thetav;", "\u03d1"), ("thickapprox;", "\u2248"),
   ("thicksim;", "\u223c"), ("thinsp;", "\u2009"), ("thkap;", "\u2248"),
   ("thksim;", "\u223c"), ("thorn", "\u00fe"), ("thorn;", "\u00fe"), ("tilde;", "\u02dc"),
   ("times", "\u00d7"), ("times;", "\u00d7"), ("timesb;", "\u22a0"),
   ("timesbar;", "\u2a31"), ("timesd;", "\u2a30"), ("tint;", "\u222d"), ("toea;", "\u2928"),
   ("top;", "\u22a4"), ("topbot;", "\u2336"), ("topcir;", "\u2af1"), ("topf;", "𝕥"),
   ("topfork;", "\u2ada"), ("tosa;", "\u2929"), ("tprime;", "\u2034"), ("trade;", "\u2122"),
   ("triangle;", "\u25b5"), ("triangledown;", "\u25bf"), ("triangleleft;", "\u25c3"),
   ("trianglelefteq;", "\u22b4"), ("triangleq;", "\u225c"), ("triangleright;", "\u25b9"),
   ("trianglerighteq;", "\u22b5"), ("tridot;", "\u25ec"), ("trie;", "\u225c"),
   ("triminus;", "\u2a3a"), ("triplus;", "\u2a39"), ("trisb;", "\u29cd"),
   ("tritime;", "\u2a3b"), ("trpezium;", "\u23e2"), ("tscr;", "𝓉"), ("tscy;", "\u0446"),
   ("tshcy;", "\u045b"), ("tstrok;", "\u0167"), ("twixt;", "\u226c"),
   ("twoheadleftarrow;", "\u219e"), ("twoheadrightarrow;", "\u21a0")]

/-- Names that begin with `u`. -/
def lowerU : List (String × String) :=
  [("uArr;", "\u21d1"), ("uHar;", "\u2963"), ("uacute", "\u00fa"), ("uacute;", "\u00fa"),
   ("uarr;", "\u2191"), ("ubrcy;", "\u045e"), ("ubreve;", "\u016d"), ("ucirc", "\u00fb"),
   ("ucirc;", "\u00fb"), ("ucy;", "\u0443"), ("udarr;", "\u21c5"), ("udblac;", "\u0171"),
   ("udhar;", "\u296e"), ("ufisht;", "\u297e"), ("ufr;", "𝔲"), ("ugrave", "\u00f9"),
   ("ugrave;", "\u00f9"), ("uharl;", "\u21bf"), ("uharr;", "\u21be"), ("uhblk;", "\u2580"),
   ("ulcorn;", "\u231c"), ("ulcorner;", "\u231c"), ("ulcrop;", "\u230f"),
   ("ultri;", "\u25f8"), ("umacr;", "\u016b"), ("uml", "\u00a8"), ("uml;", "\u00a8"),
   ("uogon;", "\u0173"), ("uopf;", "𝕦"), ("uparrow;", "\u2191"), ("updownarrow;", "\u2195"),
   ("upharpoonleft;", "\u21bf"), ("upharpoonright;", "\u21be"), ("uplus;", "\u228e"),
   ("upsi;", "\u03c5"), ("upsih;", "\u03d2"), ("upsilon;", "\u03c5"),
   ("upuparrows;", "\u21c8"), ("urcorn;", "\u231d"), ("urcorner;", "\u231d"),
   ("urcrop;", "\u230e"), ("uring;", "\u016f"), ("urtri;", "\u25f9"), ("uscr;", "𝓊"),
   ("utdot;", "\u22f0"), ("utilde;", "\u0169"), ("utri;", "\u25b5"), ("utrif;", "\u25b4"),
   ("uuarr;", "\u21c8"), ("uuml", "\u00fc"), ("uuml;", "\u00fc"), ("uwangle;", "\u29a7")]

/-- Names that begin with `v`. -/
def lowerV : List (String × String) :=
  [("vArr;", "\u21d5"), ("vBar;", "\u2ae8"), ("vBarv;", "\u2ae9"), ("vDash;", "\u22a8"),
   ("vangrt;", "\u299c"), ("varepsilon;", "\u03f5"), ("varkappa;", "\u03f0"),
   ("varnothing;", "\u2205"), ("varphi;", "\u03d5"), ("varpi;", "\u03d6"),
   ("varpropto;", "\u221d"), ("varr;", "\u2195"), ("varrho;", "\u03f1"),
   ("varsigma;", "\u03c2"), ("varsubsetneq;", "\u228a\ufe00"),
   ("varsubsetneqq;", "\u2acb\ufe00"), ("varsupsetneq;", "\u228b\ufe00"),
   ("varsupsetneqq;", "\u2acc\ufe00"), ("vartheta;", "\u03d1"),
   ("vartriangleleft;", "\u22b2"), ("vartriangleright;", "\u22b3"), ("vcy;", "\u0432"),
   ("vdash;", "\u22a2"), ("vee;", "\u2228"), ("veebar;", "\u22bb"), ("veeeq;", "\u225a"),
   ("vellip;", "\u22ee"), ("verbar;", "|"), ("vert;", "|"), ("vfr;", "𝔳"),
   ("vltri;", "\u22b2"), ("vnsub;", "\u2282\u20d2"), ("vnsup;", "\u2283\u20d2"),
   ("vopf;", "𝕧"), ("vprop;", "\u221d"), ("vrtri;", "\u22b3"), ("vscr;", "𝓋"),
   ("vsubnE;", "\u2acb\ufe00"), ("vsubne;", "\u228a\ufe00"), ("vsupnE;", "\u2acc\ufe00"),
   ("vsupne;", "\u228b\ufe00"), ("vzigzag;", "\u299a")]

/-- Names that begin with `w`. -/
def lowerW : List (String × String) :=
  [("wcirc;", "\u0175"), ("wedbar;", "\u2a5f"), ("wedge;", "\u2227"), ("wedgeq;", "\u2259"),
   ("weierp;", "\u2118"), ("wfr;", "𝔴"), ("wopf;", "𝕨"), ("wp;", "\u2118"),
   ("wr;", "\u2240"), ("wreath;", "\u2240"), ("wscr;", "𝓌")]

/-- Names that begin with `x`. -/
def lowerX : List (String × String) :=
  [("xcap;", "\u22c2"), ("xcirc;", "\u25ef"), ("xcup;", "\u22c3"), ("xdtri;", "\u25bd"),
   ("xfr;", "𝔵"), ("xhArr;", "\u27fa"), ("xharr;", "\u27f7"), ("xi;", "\u03be"),
   ("xlArr;", "\u27f8"), ("xlarr;", "\u27f5"), ("xmap;", "\u27fc"), ("xnis;", "\u22fb"),
   ("xodot;", "\u2a00"), ("xopf;", "𝕩"), ("xoplus;", "\u2a01"), ("xotime;", "\u2a02"),
   ("xrArr;", "\u27f9"), ("xrarr;", "\u27f6"), ("xscr;", "𝓍"), ("xsqcup;", "\u2a06"),
   ("xuplus;", "\u2a04"), ("xutri;", "\u25b3"), ("xvee;", "\u22c1"), ("xwedge;", "\u22c0")]

/-- Names that begin with `y`. -/
def lowerY : List (String × String) :=
  [("yacute", "\u00fd"), ("yacute;", "\u00fd"), ("yacy;", "\u044f"), ("ycirc;", "\u0177"),
   ("ycy;", "\u044b"), ("yen", "\u00a5"), ("yen;", "\u00a5"), ("yfr;", "𝔶"),
   ("yicy;", "\u0457"), ("yopf;", "𝕪"), ("yscr;", "𝓎"), ("yucy;", "\u044e"),
   ("yuml", "\u00ff"), ("yuml;", "\u00ff")]

/-- Names that begin with `z`. -/
def lowerZ : List (String × String) :=
  [("zacute;", "\u017a"), ("zcaron;", "\u017e"), ("zcy;", "\u0437"), ("zdot;", "\u017c"),
   ("zeetrf;", "\u2128"), ("zeta;", "\u03b6"), ("zfr;", "𝔷"), ("zhcy;", "\u0436"),
   ("zigrarr;", "\u21dd"), ("zopf;", "𝕫"), ("zscr;", "𝓏"), ("zwj;", "\u200d"),
   ("zwnj;", "\u200c")]

end CompilePlayground.Html.Reference
