import DocQuery.Unicode.Runs

/-!
# Scripts

The script of every code point, the scripts that share it, and the names of
the scripts.  A code point shared by several scripts is tagged with all of
them, joined by `+`.  Code points of no script are tagged `Zzzz`, which has no
name.
-/

namespace DocQuery.Unicode

/-- The scripts as runs of code points. -/
def scriptText : String :=
  "65Zyyy26Latn6Zyyy26Latn47Zyyy1Latn15Zyyy1Latn5Zyyy23Latn1Zyyy31Latn1Zyyy
    449Latn39Zyyy5Latn5Zyyy2Bopo20Zyyy112Zinh4Grek1Zyyy3Grek2Zzzz4Grek1Zyyy
    1Grek4Zzzz1Grek1Zyyy1Grek1Zyyy3Grek1Zzzz1Grek1Zzzz20Grek1Zzzz63Grek14Copt
    16Grek133Cyrl2Zinh169Cyrl1Zzzz38Armn2Zzzz50Armn2Zzzz3Armn1Zzzz55Hebr8Zzzz
    27Hebr4Zzzz6Hebr11Zzzz5Arab1Zyyy6Arab1Zyyy14Arab1Zyyy3Arab1Zyyy32Arab1Zyyy
    10Arab11Zinh26Arab1Zinh108Arab1Zyyy34Arab14Syrc1Zzzz60Syrc2Zzzz3Syrc48Arab
    50Thaa14Zzzz59Nkoo2Zzzz3Nkoo46Samr2Zzzz15Samr1Zzzz28Mand2Zzzz1Mand1Zzzz
    11Syrc5Zzzz31Arab1Zzzz2Arab5Zzzz75Arab1Zyyy29Arab81Deva4Zinh15Deva2Zyyy
    26Deva4Beng1Zzzz8Beng2Zzzz2Beng2Zzzz22Beng1Zzzz7Beng1Zzzz1Beng3Zzzz4Beng
    2Zzzz9Beng2Zzzz2Beng2Zzzz4Beng8Zzzz1Beng4Zzzz2Beng1Zzzz5Beng2Zzzz25Beng
    2Zzzz3Guru1Zzzz6Guru4Zzzz2Guru2Zzzz22Guru1Zzzz7Guru1Zzzz2Guru1Zzzz2Guru
    1Zzzz2Guru2Zzzz1Guru1Zzzz5Guru4Zzzz2Guru2Zzzz3Guru3Zzzz1Guru7Zzzz4Guru
    1Zzzz1Guru7Zzzz17Guru10Zzzz3Gujr1Zzzz9Gujr1Zzzz3Gujr1Zzzz22Gujr1Zzzz7Gujr
    1Zzzz2Gujr1Zzzz5Gujr2Zzzz10Gujr1Zzzz3Gujr1Zzzz3Gujr2Zzzz1Gujr15Zzzz4Gujr
    2Zzzz12Gujr7Zzzz7Gujr1Zzzz3Orya1Zzzz8Orya2Zzzz2Orya2Zzzz22Orya1Zzzz7Orya
    1Zzzz2Orya1Zzzz5Orya2Zzzz9Orya2Zzzz2Orya2Zzzz3Orya7Zzzz3Orya4Zzzz2Orya
    1Zzzz5Orya2Zzzz18Orya10Zzzz2Taml1Zzzz6Taml3Zzzz3Taml1Zzzz4Taml3Zzzz2Taml
    1Zzzz1Taml1Zzzz2Taml3Zzzz2Taml3Zzzz3Taml3Zzzz12Taml4Zzzz5Taml3Zzzz3Taml
    1Zzzz4Taml2Zzzz1Taml6Zzzz1Taml14Zzzz21Taml5Zzzz13Telu1Zzzz3Telu1Zzzz23Telu
    1Zzzz16Telu2Zzzz9Telu1Zzzz3Telu1Zzzz4Telu7Zzzz2Telu1Zzzz3Telu2Zzzz1Telu
    2Zzzz4Telu2Zzzz10Telu7Zzzz9Telu13Knda1Zzzz3Knda1Zzzz23Knda1Zzzz10Knda1Zzzz
    5Knda2Zzzz9Knda1Zzzz3Knda1Zzzz4Knda7Zzzz2Knda6Zzzz2Knda1Zzzz4Knda2Zzzz
    10Knda1Zzzz3Knda12Zzzz13Mlym1Zzzz3Mlym1Zzzz51Mlym1Zzzz3Mlym1Zzzz6Mlym4Zzzz
    16Mlym2Zzzz26Mlym1Zzzz3Sinh1Zzzz18Sinh3Zzzz24Sinh1Zzzz9Sinh1Zzzz1Sinh2Zzzz
    7Sinh3Zzzz1Sinh4Zzzz6Sinh1Zzzz1Sinh1Zzzz8Sinh6Zzzz10Sinh2Zzzz3Sinh12Zzzz
    58Thai4Zzzz1Zyyy28Thai37Zzzz2Laoo1Zzzz1Laoo1Zzzz5Laoo1Zzzz24Laoo1Zzzz1Laoo
    1Zzzz23Laoo2Zzzz5Laoo1Zzzz1Laoo1Zzzz7Laoo1Zzzz10Laoo2Zzzz4Laoo32Zzzz72Tibt
    1Zzzz36Tibt4Zzzz39Tibt1Zzzz36Tibt1Zzzz15Tibt1Zzzz7Tibt4Zyyy2Tibt37Zzzz
    160Mymr38Geor1Zzzz1Geor5Zzzz1Geor2Zzzz43Geor1Zyyy4Geor256Hang73Ethi1Zzzz
    4Ethi2Zzzz7Ethi1Zzzz1Ethi1Zzzz4Ethi2Zzzz41Ethi1Zzzz4Ethi2Zzzz33Ethi1Zzzz
    4Ethi2Zzzz7Ethi1Zzzz1Ethi1Zzzz4Ethi2Zzzz15Ethi1Zzzz57Ethi1Zzzz4Ethi2Zzzz
    67Ethi2Zzzz32Ethi3Zzzz26Ethi6Zzzz86Cher2Zzzz6Cher2Zzzz640Cans29Ogam3Zzzz
    75Runr3Zyyy11Runr7Zzzz22Tglg9Zzzz1Tglg21Hano2Zyyy9Zzzz20Buhd12Zzzz13Tagb
    1Zzzz3Tagb1Zzzz2Tagb12Zzzz94Khmr2Zzzz10Khmr6Zzzz10Khmr6Zzzz2Mong2Zyyy1Mong
    1Zyyy20Mong6Zzzz89Mong7Zzzz43Mong5Zzzz70Cans10Zzzz31Limb1Zzzz12Limb4Zzzz
    12Limb4Zzzz1Limb3Zzzz12Limb30Tale2Zzzz5Tale11Zzzz44Talu4Zzzz26Talu6Zzzz
    11Talu3Zzzz2Talu32Khmr28Bugi2Zzzz2Bugi63Lana1Zzzz29Lana2Zzzz11Lana6Zzzz
    10Lana6Zzzz14Lana2Zzzz31Zinh49Zzzz77Bali1Zzzz50Bali64Sund52Batk8Zzzz4Batk
    56Lepc3Zzzz15Lepc3Zzzz3Lepc48Olck11Cyrl5Zzzz43Geor2Zzzz3Geor8Sund8Zzzz
    3Zinh1Zyyy13Zinh1Zyyy7Zinh4Zyyy1Zinh6Zyyy1Zinh3Zyyy2Zinh1Zyyy5Zzzz38Latn
    5Grek1Cyrl49Latn5Grek4Latn5Grek13Latn1Cyrl70Latn1Grek64Zinh256Latn22Grek
    2Zzzz6Grek2Zzzz38Grek2Zzzz6Grek2Zzzz8Grek1Zzzz1Grek1Zzzz1Grek1Zzzz1Grek
    1Zzzz31Grek2Zzzz53Grek1Zzzz15Grek1Zzzz14Grek2Zzzz6Grek1Zzzz19Grek2Zzzz
    3Grek1Zzzz9Grek1Zzzz12Zyyy2Zinh87Zyyy1Zzzz11Zyyy1Latn2Zzzz11Zyyy1Latn
    15Zyyy1Zzzz13Latn3Zzzz33Zyyy15Zzzz33Zinh15Zzzz38Zyyy1Grek3Zyyy2Latn6Zyyy
    1Latn27Zyyy1Latn17Zyyy41Latn3Zyyy4Zzzz666Zyyy22Zzzz11Zyyy21Zzzz928Zyyy
    256Brai628Zyyy2Zzzz32Zyyy1Zzzz105Zyyy96Glag32Latn116Copt5Zzzz7Copt38Geor
    1Zzzz1Geor5Zzzz1Geor2Zzzz56Tfng7Zzzz2Tfng14Zzzz1Tfng23Ethi9Zzzz7Ethi1Zzzz
    7Ethi1Zzzz7Ethi1Zzzz7Ethi1Zzzz7Ethi1Zzzz7Ethi1Zzzz7Ethi1Zzzz7Ethi1Zzzz
    32Cyrl94Zyyy34Zzzz26Hani1Zzzz89Hani12Zzzz214Hani26Zzzz21Zyyy1Hani1Zyyy
    1Hani25Zyyy9Hani4Zinh2Hang8Zyyy4Hani4Zyyy1Zzzz86Hira2Zzzz2Zinh2Zyyy3Hira
    1Zyyy90Kana2Zyyy3Kana5Zzzz43Bopo1Zzzz94Hang1Zzzz16Zyyy32Bopo38Zyyy9Zzzz
    1Zyyy16Kana31Hang1Zzzz64Zyyy31Hang81Zyyy47Kana1Zyyy88Kana168Zyyy6592Hani
    64Zyyy20992Hani1165Yiii3Zzzz55Yiii9Zzzz48Lisu300Vaii20Zzzz96Cyrl88Bamu
    8Zzzz34Zyyy102Latn3Zyyy67Latn2Zzzz2Latn1Zzzz1Latn1Zzzz8Latn21Zzzz14Latn
    45Sylo3Zzzz10Zyyy6Zzzz56Phag8Zzzz70Saur8Zzzz12Saur6Zzzz32Deva46Kali1Zyyy
    1Kali36Rjng11Zzzz1Rjng29Hang3Zzzz78Java1Zzzz1Zyyy10Java4Zzzz2Java31Mymr
    1Zzzz55Cham9Zzzz14Cham2Zzzz10Cham2Zzzz4Cham32Mymr67Tavt24Zzzz5Tavt23Mtei
    10Zzzz6Ethi2Zzzz6Ethi2Zzzz6Ethi9Zzzz7Ethi1Zzzz7Ethi1Zzzz43Latn1Zyyy9Latn
    1Grek4Latn2Zyyy4Zzzz80Cher46Mtei2Zzzz10Mtei6Zzzz11172Hang12Zzzz23Hang4Zzzz
    49Hang8452Zzzz366Hani2Zzzz106Hani38Zzzz7Latn12Zzzz5Armn5Zzzz26Hebr1Zzzz
    5Hebr1Zzzz1Hebr1Zzzz2Hebr1Zzzz2Hebr1Zzzz10Hebr115Arab16Zzzz363Arab2Zyyy
    80Arab2Zzzz54Arab7Zzzz1Arab32Zzzz16Arab16Zinh10Zyyy6Zzzz14Zinh2Cyrl35Zyyy
    1Zzzz19Zyyy1Zzzz4Zyyy4Zzzz5Arab1Zzzz135Arab2Zzzz1Zyyy1Zzzz32Zyyy26Latn
    6Zyyy26Latn11Zyyy10Kana1Zyyy45Kana2Zyyy31Hang3Zzzz6Hang2Zzzz6Hang2Zzzz
    6Hang2Zzzz3Hang3Zzzz7Zyyy1Zzzz7Zyyy10Zzzz5Zyyy2Zzzz12Linb1Zzzz26Linb1Zzzz
    19Linb1Zzzz2Linb1Zzzz15Linb2Zzzz14Linb34Zzzz123Linb5Zzzz3Zyyy4Zzzz45Zyyy
    3Zzzz9Zyyy79Grek1Zzzz13Zyyy3Zzzz1Grek47Zzzz45Zyyy1Zinh130Zzzz29Lyci3Zzzz
    49Cari15Zzzz1Zinh27Zyyy4Zzzz36Ital9Zzzz3Ital27Goth5Zzzz43Perm5Zzzz30Ugar
    1Zzzz1Ugar36Xpeo4Zzzz14Xpeo42Zzzz80Dsrt48Shaw30Osma2Zzzz10Osma6Zzzz36Osge
    4Zzzz36Osge4Zzzz40Elba8Zzzz52Aghb11Zzzz1Aghb11Vith1Zzzz15Vith1Zzzz7Vith
    1Zzzz2Vith1Zzzz11Vith1Zzzz15Vith1Zzzz7Vith1Zzzz2Vith3Zzzz52Todr12Zzzz
    311Lina9Zzzz22Lina10Zzzz8Lina24Zzzz6Latn1Zzzz42Latn1Zzzz9Latn69Zzzz6Cprt
    2Zzzz1Cprt1Zzzz44Cprt1Zzzz2Cprt3Zzzz1Cprt2Zzzz1Cprt22Armi1Zzzz9Armi32Palm
    31Nbat8Zzzz9Nbat48Zzzz19Hatr1Zzzz2Hatr5Zzzz5Hatr28Phnx3Zzzz1Phnx26Lydi
    5Zzzz1Lydi64Zzzz32Mero24Merc4Zzzz20Merc2Zzzz46Merc4Khar1Zzzz2Khar5Zzzz
    8Khar1Zzzz3Khar1Zzzz29Khar2Zzzz3Khar4Zzzz10Khar7Zzzz9Khar7Zzzz32Sarb32Narb
    32Zzzz39Mani4Zzzz12Mani9Zzzz54Avst3Zzzz7Avst22Prti2Zzzz8Prti19Phli5Zzzz
    8Phli18Phlp7Zzzz4Phlp12Zzzz7Phlp80Zzzz73Orkh55Zzzz51Hung13Zzzz51Hung7Zzzz
    6Hung40Rohg8Zzzz10Rohg6Zzzz38Gara3Zzzz29Gara8Zzzz2Gara208Zzzz31Arab1Zzzz
    42Yezi1Zzzz3Yezi2Zzzz2Yezi16Zzzz3Arab55Zzzz4Arab40Sogo8Zzzz42Sogd22Zzzz
    26Ougr38Zzzz28Chrs20Zzzz23Elym9Zzzz78Brah4Zzzz36Brah9Zzzz1Brah67Kthi10Zzzz
    1Kthi2Zzzz25Sora7Zzzz10Sora6Zzzz53Cakm1Zzzz18Cakm8Zzzz39Mahj9Zzzz96Shrd
    1Zzzz20Sinh11Zzzz18Khoj1Zzzz47Khoj62Zzzz7Mult1Zzzz1Mult1Zzzz4Mult1Zzzz
    15Mult1Zzzz11Mult6Zzzz59Sind5Zzzz10Sind6Zzzz4Gran1Zzzz8Gran2Zzzz2Gran2Zzzz
    22Gran1Zzzz7Gran1Zzzz2Gran1Zzzz5Gran1Zzzz1Zinh9Gran2Zzzz2Gran2Zzzz3Gran
    2Zzzz1Gran6Zzzz1Gran5Zzzz7Gran2Zzzz7Gran3Zzzz5Gran11Zzzz10Tutg1Zzzz1Tutg
    2Zzzz1Tutg1Zzzz38Tutg1Zzzz10Tutg1Zzzz1Tutg2Zzzz1Tutg1Zzzz4Tutg1Zzzz10Tutg
    1Zzzz2Tutg8Zzzz2Tutg29Zzzz92Newa1Zzzz5Newa30Zzzz72Tirh8Zzzz10Tirh166Zzzz
    54Sidd2Zzzz38Sidd34Zzzz69Modi11Zzzz10Modi6Zzzz13Mong19Zzzz58Takr6Zzzz
    10Takr6Zzzz20Mymr28Zzzz27Ahom2Zzzz15Ahom4Zzzz23Ahom185Zzzz60Dogr100Zzzz
    83Wara12Zzzz1Wara7Diak2Zzzz1Diak2Zzzz8Diak1Zzzz2Diak1Zzzz30Diak1Zzzz2Diak
    2Zzzz12Diak9Zzzz10Diak70Zzzz8Nand2Zzzz46Nand2Zzzz11Nand27Zzzz72Zanb8Zzzz
    83Soyo13Zzzz16Cans57Pauc7Zzzz10Deva182Zzzz34Sunu14Zzzz10Sunu6Zzzz9Bhks
    1Zzzz45Bhks1Zzzz14Bhks10Zzzz29Bhks3Zzzz32Marc2Zzzz22Marc1Zzzz14Marc73Zzzz
    7Gonm1Zzzz2Gonm1Zzzz44Gonm3Zzzz1Gonm1Zzzz2Gonm1Zzzz9Gonm8Zzzz10Gonm6Zzzz
    6Gong1Zzzz2Gong1Zzzz37Gong1Zzzz2Gong1Zzzz6Gong7Zzzz10Gong310Zzzz25Maka
    7Zzzz17Kawi1Zzzz41Kawi3Zzzz29Kawi85Zzzz1Lisu15Zzzz50Taml13Zzzz1Taml922Xsux
    102Zzzz111Xsux1Zzzz5Xsux11Zzzz196Xsux2636Zzzz99Cpmn13Zzzz1110Egyp10Zzzz
    3995Egyp5Zzzz583Hluw6841Zzzz58Gukh1734Zzzz569Bamu7Zzzz31Mroo1Zzzz10Mroo
    4Zzzz2Mroo79Tnsa1Zzzz10Tnsa6Zzzz30Bass2Zzzz6Bass10Zzzz70Hmng10Zzzz10Hmng
    1Zzzz7Hmng1Zzzz21Hmng5Zzzz19Hmng432Zzzz58Krai198Zzzz91Medf101Zzzz75Plrd
    4Zzzz57Plrd7Zzzz17Plrd64Zzzz1Tang1Nshu2Hani1Kits11Zzzz2Hani14Zzzz6136Tang
    8Zzzz768Tang470Kits41Zzzz1Kits9Tang8935Zzzz4Kana1Zzzz7Kana1Zzzz2Kana1Zzzz
    1Kana287Hira3Kana15Zzzz1Hira29Zzzz3Hira2Zzzz1Kana14Zzzz4Kana8Zzzz396Nshu
    2308Zzzz107Dupl5Zzzz13Dupl3Zzzz9Dupl7Zzzz10Dupl2Zzzz4Dupl4Zyyy3932Zzzz
    250Zyyy6Zzzz436Zyyy76Zzzz46Zinh2Zzzz23Zinh9Zzzz116Zyyy60Zzzz246Zyyy10Zzzz
    39Zyyy2Zzzz62Zyyy3Zinh17Zyyy8Zinh2Zyyy7Zinh30Zyyy4Zinh61Zyyy21Zzzz70Grek
    122Zzzz20Zyyy12Zzzz20Zyyy12Zzzz87Zyyy9Zzzz25Zyyy135Zzzz85Zyyy1Zzzz71Zyyy
    1Zzzz2Zyyy2Zzzz1Zyyy2Zzzz2Zyyy2Zzzz4Zyyy1Zzzz12Zyyy1Zzzz1Zyyy1Zzzz7Zyyy
    1Zzzz65Zyyy1Zzzz4Zyyy2Zzzz8Zyyy1Zzzz7Zyyy1Zzzz28Zyyy1Zzzz4Zyyy1Zzzz5Zyyy
    1Zzzz1Zyyy3Zzzz7Zyyy1Zzzz340Zyyy2Zzzz292Zyyy2Zzzz50Zyyy652Sgnw15Zzzz5Sgnw
    1Zzzz15Sgnw1104Zzzz31Latn6Zzzz6Latn213Zzzz7Glag1Zzzz17Glag2Zzzz7Glag1Zzzz
    2Glag1Zzzz5Glag5Zzzz62Cyrl33Zzzz1Cyrl112Zzzz45Hmnp3Zzzz14Hmnp2Zzzz10Hmnp
    4Zzzz2Hmnp320Zzzz31Toto17Zzzz58Wcho5Zzzz1Wcho464Zzzz42Nagm214Zzzz43Onao
    4Zzzz1Onao480Zzzz7Ethi1Zzzz4Ethi1Zzzz2Ethi1Zzzz15Ethi1Zzzz197Mend2Zzzz
    16Mend41Zzzz76Adlm4Zzzz10Adlm4Zzzz2Adlm785Zzzz68Zyyy76Zzzz61Zyyy194Zzzz
    4Arab1Zzzz27Arab1Zzzz2Arab1Zzzz1Arab2Zzzz1Arab1Zzzz10Arab1Zzzz4Arab1Zzzz
    1Arab1Zzzz1Arab6Zzzz1Arab4Zzzz1Arab1Zzzz1Arab1Zzzz1Arab1Zzzz3Arab1Zzzz
    2Arab1Zzzz1Arab2Zzzz1Arab1Zzzz1Arab1Zzzz1Arab1Zzzz1Arab1Zzzz1Arab1Zzzz
    2Arab1Zzzz1Arab2Zzzz4Arab1Zzzz7Arab1Zzzz4Arab1Zzzz4Arab1Zzzz1Arab1Zzzz
    10Arab1Zzzz17Arab5Zzzz3Arab1Zzzz5Arab1Zzzz17Arab52Zzzz2Arab270Zzzz44Zyyy
    4Zzzz100Zyyy12Zzzz15Zyyy2Zzzz15Zyyy1Zzzz15Zyyy1Zzzz37Zyyy10Zzzz174Zyyy
    56Zzzz26Zyyy1Hira2Zyyy13Zzzz44Zyyy4Zzzz9Zyyy7Zzzz2Zyyy14Zzzz6Zyyy154Zzzz
    984Zyyy4Zzzz17Zyyy3Zzzz13Zyyy3Zzzz119Zyyy4Zzzz95Zyyy6Zzzz12Zyyy4Zzzz1Zyyy
    15Zzzz12Zyyy4Zzzz56Zyyy8Zzzz10Zyyy6Zzzz40Zyyy8Zzzz30Zyyy2Zzzz12Zyyy4Zzzz
    2Zyyy62Zzzz340Zyyy12Zzzz14Zyyy2Zzzz13Zyyy3Zzzz10Zyyy5Zzzz56Zyyy7Zzzz15Zyyy
    2Zzzz11Zyyy6Zzzz9Zyyy7Zzzz147Zyyy1Zzzz102Zyyy1030Zzzz42720Hani32Zzzz
    4154Hani6Zzzz222Hani2Zzzz5762Hani14Zzzz7473Hani15Zzzz622Hani2466Zzzz
    542Hani1506Zzzz4939Hani5Zzzz4192Hani711761Zzzz1Zyyy30Zzzz96Zyyy128Zzzz
    240Zinh196112Zzzz"

/-- The sets of scripts that share the code points, as runs. -/
def sharedScriptText : String :=
  "65Zyyy26Latn6Zyyy26Latn47Zyyy1Latn12Zyyy
    1Avst+Cari+Copt+Dupl+Elba+Geor+Glag+Gong+Goth+Grek+Hani+Latn+Lydi+Mahj+Perm+Shaw
    2Zyyy1Latn5Zyyy23Latn1Zyyy31Latn1Zyyy449Latn3Zyyy
    1Beng+Cyrl+Deva+Latn+Lisu+Thai+Toto10Zyyy1Bopo+Latn1Zyyy3Bopo+Latn1Zyyy
    1Latn+Lisu9Zyyy1Latn+Thai1Zyyy1Bopo+Latn6Zyyy5Latn5Zyyy2Bopo20Zyyy
    1Cher+Copt+Cyrl+Grek+Latn+Perm+Sunu+Tale
    1Cher+Cyrl+Grek+Latn+Osge+Sunu+Tale+Todr1Cher+Cyrl+Latn+Tfng
    1Glag+Latn+Sunu+Syrc+Thai
    1Aghb+Cher+Copt+Cyrl+Goth+Grek+Latn+Osge+Syrc+Tfng+Todr
    1Copt+Elba+Glag+Goth+Kana+Latn1Cyrl+Grek+Latn+Perm+Tfng
    1Copt+Dupl+Hebr+Latn+Perm+Syrc+Tale+Tfng+Todr
    1Armn+Cyrl+Dupl+Goth+Grek+Hebr+Latn+Perm+Syrc+Tale+Tfng1Latn+Tfng
    1Dupl+Latn+Syrc1Cher+Cyrl+Latn+Osge1Cher+Latn+Tale1Latn+Sunu1Ethi+Latn
    1Zinh1Latn+Sunu1Cyrl+Latn+Todr1Zinh1Grek+Latn+Perm+Todr15Zinh
    1Cher+Dupl+Kana+Latn+Syrc+Tfng1Cher+Dupl+Latn+Syrc1Latn+Syrc7Zinh
    1Latn+Sunu+Syrc1Latn+Syrc1Zinh1Cher+Latn+Syrc
    1Aghb+Cher+Goth+Latn+Sunu+Syrc+Thai16Zinh1Grek2Zinh1Grek18Zinh1Latn+Osge
    5Zinh1Aghb+Latn+Todr4Zinh13Latn4Grek2Copt+Grek2Grek2Zzzz4Grek1Zyyy1Grek
    4Zzzz1Grek1Zyyy1Grek1Zyyy3Grek1Zzzz1Grek1Zzzz20Grek1Zzzz63Grek14Copt16Grek
    131Cyrl1Cyrl+Perm1Cyrl+Glag2Cyrl+Latn1Cyrl+Glag168Cyrl1Zzzz38Armn2Zzzz
    48Armn1Armn+Geor+Glag1Armn2Zzzz3Armn1Zzzz55Hebr8Zzzz27Hebr4Zzzz6Hebr11Zzzz
    5Arab1Zyyy6Arab1Arab+Gara+Nkoo+Rohg+Syrc+Thaa+Yezi14Arab
    1Arab+Gara+Nkoo+Rohg+Syrc+Thaa+Yezi1Arab+Syrc+Thaa2Arab
    1Adlm+Arab+Gara+Nkoo+Rohg+Syrc+Thaa+Yezi32Arab
    1Adlm+Arab+Mand+Mani+Ougr+Phlp+Rohg+Sogd+Syrc10Arab11Arab+Syrc10Arab
    10Arab+Thaa+Yezi6Arab1Arab+Syrc99Arab1Arab+Rohg8Arab1Zyyy34Arab14Syrc1Zzzz
    60Syrc2Zzzz3Syrc48Arab50Thaa14Zzzz59Nkoo2Zzzz3Nkoo46Samr2Zzzz15Samr1Zzzz
    28Mand2Zzzz1Mand1Zzzz11Syrc5Zzzz31Arab1Zzzz2Arab5Zzzz75Arab1Zyyy29Arab
    81Deva
    1Beng+Deva+Gran+Gujr+Guru+Knda+Latn+Mlym+Nand+Newa+Orya+Shrd+Taml+Telu+Tirh
    1Beng+Deva+Gran+Gujr+Guru+Knda+Latn+Mlym+Newa+Orya+Taml+Telu+Tirh2Zinh
    15Deva
    1Beng+Deva+Dogr+Gong+Gonm+Gran+Gujr+Guru+Knda+Mahj+Mlym+Nand+Onao+Orya+Sind+Sinh+Sylo+Takr+Taml+Telu+Tirh
    1Beng+Deva+Dogr+Gong+Gonm+Gran+Gujr+Gukh+Guru+Knda+Limb+Mahj+Mlym+Nand+Onao+Orya+Sind+Sinh+Sylo+Takr+Taml+Telu+Tirh
    10Deva+Dogr+Kthi+Mahj16Deva4Beng1Zzzz8Beng2Zzzz2Beng2Zzzz22Beng1Zzzz7Beng
    1Zzzz1Beng3Zzzz4Beng2Zzzz9Beng2Zzzz2Beng2Zzzz4Beng8Zzzz1Beng4Zzzz2Beng
    1Zzzz5Beng2Zzzz10Beng+Cakm+Sylo15Beng2Zzzz3Guru1Zzzz6Guru4Zzzz2Guru2Zzzz
    22Guru1Zzzz7Guru1Zzzz2Guru1Zzzz2Guru1Zzzz2Guru2Zzzz1Guru1Zzzz5Guru4Zzzz
    2Guru2Zzzz3Guru3Zzzz1Guru7Zzzz4Guru1Zzzz1Guru7Zzzz10Guru+Mult7Guru10Zzzz
    3Gujr1Zzzz9Gujr1Zzzz3Gujr1Zzzz22Gujr1Zzzz7Gujr1Zzzz2Gujr1Zzzz5Gujr2Zzzz
    10Gujr1Zzzz3Gujr1Zzzz3Gujr2Zzzz1Gujr15Zzzz4Gujr2Zzzz10Gujr+Khoj2Gujr7Zzzz
    7Gujr1Zzzz3Orya1Zzzz8Orya2Zzzz2Orya2Zzzz22Orya1Zzzz7Orya1Zzzz2Orya1Zzzz
    5Orya2Zzzz9Orya2Zzzz2Orya2Zzzz3Orya7Zzzz3Orya4Zzzz2Orya1Zzzz5Orya2Zzzz
    18Orya10Zzzz2Taml1Zzzz6Taml3Zzzz3Taml1Zzzz4Taml3Zzzz2Taml1Zzzz1Taml1Zzzz
    2Taml3Zzzz2Taml3Zzzz3Taml3Zzzz12Taml4Zzzz5Taml3Zzzz3Taml1Zzzz4Taml2Zzzz
    1Taml6Zzzz1Taml14Zzzz14Gran+Taml7Taml5Zzzz13Telu1Zzzz3Telu1Zzzz23Telu1Zzzz
    16Telu2Zzzz9Telu1Zzzz3Telu1Zzzz4Telu7Zzzz2Telu1Zzzz3Telu2Zzzz1Telu2Zzzz
    4Telu2Zzzz10Telu7Zzzz9Telu13Knda1Zzzz3Knda1Zzzz23Knda1Zzzz10Knda1Zzzz5Knda
    2Zzzz9Knda1Zzzz3Knda1Zzzz4Knda7Zzzz2Knda6Zzzz2Knda1Zzzz4Knda2Zzzz
    10Knda+Nand+Tutg1Zzzz3Knda12Zzzz13Mlym1Zzzz3Mlym1Zzzz51Mlym1Zzzz3Mlym1Zzzz
    6Mlym4Zzzz16Mlym2Zzzz26Mlym1Zzzz3Sinh1Zzzz18Sinh3Zzzz24Sinh1Zzzz9Sinh1Zzzz
    1Sinh2Zzzz7Sinh3Zzzz1Sinh4Zzzz6Sinh1Zzzz1Sinh1Zzzz8Sinh6Zzzz10Sinh2Zzzz
    3Sinh12Zzzz58Thai4Zzzz1Zyyy28Thai37Zzzz2Laoo1Zzzz1Laoo1Zzzz5Laoo1Zzzz
    24Laoo1Zzzz1Laoo1Zzzz23Laoo2Zzzz5Laoo1Zzzz1Laoo1Zzzz7Laoo1Zzzz10Laoo2Zzzz
    4Laoo32Zzzz72Tibt1Zzzz36Tibt4Zzzz39Tibt1Zzzz36Tibt1Zzzz15Tibt1Zzzz7Tibt
    4Zyyy2Tibt37Zzzz64Mymr10Cakm+Mymr+Tale86Mymr38Geor1Zzzz1Geor5Zzzz1Geor
    2Zzzz43Geor1Geor+Glag+Latn4Geor256Hang73Ethi1Zzzz4Ethi2Zzzz7Ethi1Zzzz1Ethi
    1Zzzz4Ethi2Zzzz41Ethi1Zzzz4Ethi2Zzzz33Ethi1Zzzz4Ethi2Zzzz7Ethi1Zzzz1Ethi
    1Zzzz4Ethi2Zzzz15Ethi1Zzzz57Ethi1Zzzz4Ethi2Zzzz67Ethi2Zzzz32Ethi3Zzzz
    26Ethi6Zzzz86Cher2Zzzz6Cher2Zzzz640Cans29Ogam3Zzzz89Runr7Zzzz22Tglg9Zzzz
    1Tglg21Hano2Buhd+Hano+Tagb+Tglg9Zzzz20Buhd12Zzzz13Tagb1Zzzz3Tagb1Zzzz2Tagb
    12Zzzz94Khmr2Zzzz10Khmr6Zzzz10Khmr6Zzzz2Mong2Mong+Phag1Mong1Mong+Phag
    20Mong6Zzzz89Mong7Zzzz43Mong5Zzzz70Cans10Zzzz31Limb1Zzzz12Limb4Zzzz12Limb
    4Zzzz1Limb3Zzzz12Limb30Tale2Zzzz5Tale11Zzzz44Talu4Zzzz26Talu6Zzzz11Talu
    3Zzzz2Talu32Khmr28Bugi2Zzzz2Bugi63Lana1Zzzz29Lana2Zzzz11Lana6Zzzz10Lana
    6Zzzz14Lana2Zzzz31Zinh49Zzzz77Bali1Zzzz50Bali64Sund52Batk8Zzzz4Batk56Lepc
    3Zzzz15Lepc3Zzzz3Lepc48Olck11Cyrl5Zzzz43Geor2Zzzz3Geor8Sund8Zzzz
    1Beng+Deva+Gran+Knda1Deva1Beng+Deva+Gran+Knda1Deva+Gran+Knda1Deva
    1Beng+Deva+Newa+Telu+Tirh1Beng+Deva+Telu1Deva+Newa+Shrd
    1Beng+Deva+Newa+Telu1Deva+Shrd1Deva+Knda+Mlym+Orya+Taml+Telu1Deva
    2Deva+Shrd2Deva1Deva+Shrd1Beng+Deva1Deva+Newa+Tirh6Deva1Deva+Nand+Newa
    1Beng+Deva+Shrd1Deva+Newa1Deva1Beng+Deva+Newa+Shrd4Deva
    1Beng+Deva+Gran+Knda+Mlym+Nand+Orya+Sinh+Telu+Tirh+Tutg1Deva+Gran
    1Deva+Gran+Knda+Tutg2Beng+Deva1Beng2Deva+Gran1Nand5Zzzz38Latn5Grek1Cyrl
    49Latn5Grek4Latn5Grek13Latn1Cyrl70Latn3Grek54Zinh1Cyrl+Latn+Syrc1Zinh1Syrc
    5Zinh256Latn22Grek2Zzzz6Grek2Zzzz38Grek2Zzzz6Grek2Zzzz8Grek1Zzzz1Grek1Zzzz
    1Grek1Zzzz1Grek1Zzzz31Grek2Zzzz53Grek1Zzzz15Grek1Zzzz14Grek2Zzzz6Grek1Zzzz
    19Grek2Zzzz3Grek1Zzzz9Grek1Zzzz12Zyyy2Zinh33Zyyy1Latn+Mong+Phag31Zyyy
    1Adlm+Arab10Zyyy1Cari+Geor+Glag+Hung+Lyci+Orkh2Zyyy1Cari+Grek+Hung+Mero
    7Zyyy1Zzzz11Zyyy1Latn2Zzzz11Zyyy1Latn15Zyyy1Zzzz13Latn3Zzzz33Zyyy15Zzzz
    32Zinh1Deva+Gran+Latn15Zzzz38Zyyy1Grek3Zyyy2Latn6Zyyy1Latn27Zyyy1Latn
    17Zyyy41Latn3Zyyy4Zzzz666Zyyy22Zzzz11Zyyy21Zzzz928Zyyy256Brai628Zyyy2Zzzz
    32Zyyy1Zzzz105Zyyy96Glag32Latn116Copt5Zzzz7Copt38Geor1Zzzz1Geor5Zzzz1Geor
    2Zzzz56Tfng7Zzzz2Tfng14Zzzz1Tfng23Ethi9Zzzz7Ethi1Zzzz7Ethi1Zzzz7Ethi1Zzzz
    7Ethi1Zzzz7Ethi1Zzzz7Ethi1Zzzz7Ethi1Zzzz7Ethi1Zzzz32Cyrl23Zyyy1Copt+Latn
    24Zyyy1Avst+Orkh1Avst+Cari+Geor+Hung+Kthi+Lydi+Samr10Zyyy1Dupl4Zyyy
    1Adlm+Arab+Hung1Zyyy1Cyrl+Glag26Zyyy34Zzzz26Hani1Zzzz89Hani12Zzzz214Hani
    26Zzzz16Hani+Tang1Zyyy1Bopo+Hang+Hani+Hira+Kana+Mong+Yiii
    1Bopo+Hang+Hani+Hira+Kana+Mong+Phag+Yiii1Bopo+Hang+Hani+Hira+Kana1Zyyy
    3Hani2Bopo+Hang+Hani+Hira+Kana+Mong+Tibt+Yiii
    2Bopo+Hang+Hani+Hira+Kana+Lisu+Mong+Tibt+Yiii
    6Bopo+Hang+Hani+Hira+Kana+Yiii1Zyyy1Bopo+Hang+Hani+Hira+Kana
    8Bopo+Hang+Hani+Hira+Kana+Yiii4Bopo+Hang+Hani+Hira+Kana1Zyyy9Hani
    4Bopo+Hani2Hang1Bopo+Hang+Hani+Hira+Kana5Hira+Kana1Zyyy
    1Bopo+Hang+Hani+Hira+Kana4Hani2Hani+Hira+Kana2Hani1Zzzz86Hira2Zzzz
    4Hira+Kana3Hira1Hira+Kana90Kana1Bopo+Hang+Hani+Hira+Kana+Yiii1Hira+Kana
    3Kana5Zzzz43Bopo1Zzzz94Hang1Zzzz16Hani32Bopo38Hani9Zzzz1Hani+Tang16Kana
    31Hang1Zzzz40Hani24Zyyy31Hang1Zyyy49Hani15Zyyy12Hani4Zyyy47Kana1Hani88Kana
    25Hani10Zyyy5Hani96Zyyy31Hani1Zyyy6592Hani64Zyyy20992Hani1165Yiii3Zzzz
    55Yiii9Zzzz48Lisu300Vaii20Zzzz47Cyrl1Cyrl+Glag48Cyrl88Bamu8Zzzz8Hani+Latn
    26Zyyy102Latn3Zyyy67Latn2Zzzz2Latn1Zzzz1Latn1Zzzz8Latn21Zzzz14Latn45Sylo
    3Zzzz
    3Deva+Dogr+Gujr+Guru+Khoj+Knda+Kthi+Mahj+Mlym+Modi+Nand+Shrd+Sind+Takr+Tirh+Tutg
    3Deva+Dogr+Gujr+Guru+Khoj+Knda+Kthi+Mahj+Modi+Nand+Shrd+Sind+Takr+Tirh+Tutg
    2Deva+Dogr+Gujr+Guru+Khoj+Kthi+Mahj+Modi+Sind+Takr+Tirh
    1Deva+Dogr+Gujr+Guru+Khoj+Kthi+Mahj+Modi+Shrd+Sind+Takr+Tirh
    1Deva+Dogr+Gujr+Guru+Khoj+Kthi+Mahj+Modi+Sind+Takr+Tirh6Zzzz56Phag8Zzzz
    70Saur8Zzzz12Saur6Zzzz17Deva1Beng+Deva+Tutg1Deva1Deva+Taml12Deva46Kali
    1Kali+Latn+Mymr1Kali36Rjng11Zzzz1Rjng29Hang3Zzzz78Java1Zzzz1Bugi+Java
    10Java4Zzzz2Java31Mymr1Zzzz55Cham9Zzzz14Cham2Zzzz10Cham2Zzzz4Cham32Mymr
    67Tavt24Zzzz5Tavt23Mtei10Zzzz6Ethi2Zzzz6Ethi2Zzzz6Ethi9Zzzz7Ethi1Zzzz7Ethi
    1Zzzz43Latn1Zyyy9Latn1Grek4Latn2Zyyy4Zzzz80Cher46Mtei2Zzzz10Mtei6Zzzz
    11172Hang12Zzzz23Hang4Zzzz49Hang8452Zzzz366Hani2Zzzz106Hani38Zzzz7Latn
    12Zzzz5Armn5Zzzz26Hebr1Zzzz5Hebr1Zzzz1Hebr1Zzzz2Hebr1Zzzz2Hebr1Zzzz10Hebr
    115Arab16Zzzz363Arab2Arab+Nkoo80Arab2Zzzz54Arab7Zzzz1Arab32Zzzz2Arab
    1Arab+Thaa10Arab1Arab+Thaa2Arab16Zinh10Zyyy6Zzzz14Zinh2Cyrl21Zyyy
    2Bopo+Hang+Hani+Hira+Kana12Zyyy1Zzzz19Zyyy1Zzzz4Zyyy4Zzzz5Arab1Zzzz135Arab
    2Zzzz1Zyyy1Zzzz32Zyyy26Latn6Zyyy26Latn6Zyyy5Bopo+Hang+Hani+Hira+Kana+Yiii
    10Kana1Hira+Kana45Kana2Hira+Kana31Hang3Zzzz6Hang2Zzzz6Hang2Zzzz6Hang2Zzzz
    3Hang3Zzzz7Zyyy1Zzzz7Zyyy10Zzzz5Zyyy2Zzzz12Linb1Zzzz26Linb1Zzzz19Linb1Zzzz
    2Linb1Zzzz15Linb2Zzzz14Linb34Zzzz123Linb5Zzzz2Cpmn+Cprt+Linb1Cprt+Linb
    4Zzzz45Cprt+Lina+Linb3Zzzz9Cprt+Linb79Grek1Zzzz13Zyyy3Zzzz1Grek47Zzzz
    45Zyyy1Zinh130Zzzz29Lyci3Zzzz49Cari15Zzzz28Arab+Copt4Zzzz36Ital9Zzzz3Ital
    27Goth5Zzzz43Perm5Zzzz30Ugar1Zzzz1Ugar36Xpeo4Zzzz14Xpeo42Zzzz80Dsrt48Shaw
    30Osma2Zzzz10Osma6Zzzz36Osge4Zzzz36Osge4Zzzz40Elba8Zzzz52Aghb11Zzzz1Aghb
    11Vith1Zzzz15Vith1Zzzz7Vith1Zzzz2Vith1Zzzz11Vith1Zzzz15Vith1Zzzz7Vith1Zzzz
    2Vith3Zzzz52Todr12Zzzz311Lina9Zzzz22Lina10Zzzz8Lina24Zzzz6Latn1Zzzz42Latn
    1Zzzz9Latn69Zzzz6Cprt2Zzzz1Cprt1Zzzz44Cprt1Zzzz2Cprt3Zzzz1Cprt2Zzzz1Cprt
    22Armi1Zzzz9Armi32Palm31Nbat8Zzzz9Nbat48Zzzz19Hatr1Zzzz2Hatr5Zzzz5Hatr
    28Phnx3Zzzz1Phnx26Lydi5Zzzz1Lydi64Zzzz32Mero24Merc4Zzzz20Merc2Zzzz46Merc
    4Khar1Zzzz2Khar5Zzzz8Khar1Zzzz3Khar1Zzzz29Khar2Zzzz3Khar4Zzzz10Khar7Zzzz
    9Khar7Zzzz32Sarb32Narb32Zzzz39Mani4Zzzz7Mani1Mani+Ougr4Mani9Zzzz54Avst
    3Zzzz7Avst22Prti2Zzzz8Prti19Phli5Zzzz8Phli18Phlp7Zzzz4Phlp12Zzzz7Phlp
    80Zzzz73Orkh55Zzzz51Hung13Zzzz51Hung7Zzzz6Hung40Rohg8Zzzz10Rohg6Zzzz38Gara
    3Zzzz29Gara8Zzzz2Gara208Zzzz31Arab1Zzzz42Yezi1Zzzz3Yezi2Zzzz2Yezi16Zzzz
    3Arab55Zzzz4Arab40Sogo8Zzzz42Sogd22Zzzz26Ougr38Zzzz28Chrs20Zzzz23Elym9Zzzz
    78Brah4Zzzz36Brah9Zzzz1Brah67Kthi10Zzzz1Kthi2Zzzz25Sora7Zzzz10Sora6Zzzz
    53Cakm1Zzzz18Cakm8Zzzz39Mahj9Zzzz96Shrd1Zzzz20Sinh11Zzzz18Khoj1Zzzz47Khoj
    62Zzzz7Mult1Zzzz1Mult1Zzzz4Mult1Zzzz15Mult1Zzzz11Mult6Zzzz59Sind5Zzzz
    10Sind6Zzzz1Gran1Gran+Taml1Gran1Gran+Taml1Zzzz8Gran2Zzzz2Gran2Zzzz22Gran
    1Zzzz7Gran1Zzzz2Gran1Zzzz5Gran1Zzzz2Gran+Taml8Gran2Zzzz2Gran2Zzzz3Gran
    2Zzzz1Gran6Zzzz1Gran5Zzzz7Gran2Zzzz7Gran3Zzzz5Gran11Zzzz10Tutg1Zzzz1Tutg
    2Zzzz1Tutg1Zzzz38Tutg1Zzzz10Tutg1Zzzz1Tutg2Zzzz1Tutg1Zzzz4Tutg1Zzzz10Tutg
    1Zzzz2Tutg8Zzzz2Tutg29Zzzz92Newa1Zzzz5Newa30Zzzz72Tirh8Zzzz10Tirh166Zzzz
    54Sidd2Zzzz38Sidd34Zzzz69Modi11Zzzz10Modi6Zzzz13Mong19Zzzz58Takr6Zzzz
    10Takr6Zzzz20Mymr28Zzzz27Ahom2Zzzz15Ahom4Zzzz23Ahom185Zzzz60Dogr100Zzzz
    83Wara12Zzzz1Wara7Diak2Zzzz1Diak2Zzzz8Diak1Zzzz2Diak1Zzzz30Diak1Zzzz2Diak
    2Zzzz12Diak9Zzzz10Diak70Zzzz8Nand2Zzzz46Nand2Zzzz11Nand27Zzzz72Zanb8Zzzz
    83Soyo13Zzzz16Cans57Pauc7Zzzz10Deva182Zzzz34Sunu14Zzzz10Sunu6Zzzz9Bhks
    1Zzzz45Bhks1Zzzz14Bhks10Zzzz29Bhks3Zzzz32Marc2Zzzz22Marc1Zzzz14Marc73Zzzz
    7Gonm1Zzzz2Gonm1Zzzz44Gonm3Zzzz1Gonm1Zzzz2Gonm1Zzzz9Gonm8Zzzz10Gonm6Zzzz
    6Gong1Zzzz2Gong1Zzzz37Gong1Zzzz2Gong1Zzzz6Gong7Zzzz10Gong310Zzzz25Maka
    7Zzzz17Kawi1Zzzz41Kawi3Zzzz29Kawi85Zzzz1Lisu15Zzzz16Taml2Gran+Taml1Taml
    1Gran+Taml30Taml13Zzzz1Taml922Xsux102Zzzz111Xsux1Zzzz5Xsux11Zzzz196Xsux
    2636Zzzz99Cpmn13Zzzz1110Egyp10Zzzz3995Egyp5Zzzz583Hluw6841Zzzz58Gukh
    1734Zzzz569Bamu7Zzzz31Mroo1Zzzz10Mroo4Zzzz2Mroo79Tnsa1Zzzz10Tnsa6Zzzz
    30Bass2Zzzz6Bass10Zzzz70Hmng10Zzzz10Hmng1Zzzz7Hmng1Zzzz21Hmng5Zzzz19Hmng
    432Zzzz58Krai198Zzzz91Medf101Zzzz75Plrd4Zzzz57Plrd7Zzzz17Plrd64Zzzz1Tang
    1Nshu2Hani1Kits11Zzzz2Hani14Zzzz6136Tang8Zzzz768Tang470Kits41Zzzz1Kits
    9Tang8935Zzzz4Kana1Zzzz7Kana1Zzzz2Kana1Zzzz1Kana287Hira3Kana15Zzzz1Hira
    29Zzzz3Hira2Zzzz1Kana14Zzzz4Kana8Zzzz396Nshu2308Zzzz107Dupl5Zzzz13Dupl
    3Zzzz9Dupl7Zzzz10Dupl2Zzzz8Dupl3932Zzzz250Zyyy6Zzzz436Zyyy76Zzzz46Zinh
    2Zzzz23Zinh9Zzzz116Zyyy60Zzzz246Zyyy10Zzzz39Zyyy2Zzzz62Zyyy3Zinh17Zyyy
    8Zinh2Zyyy7Zinh30Zyyy4Zinh61Zyyy21Zzzz70Grek122Zzzz20Zyyy12Zzzz20Zyyy
    12Zzzz87Zyyy9Zzzz18Hani7Zyyy135Zzzz85Zyyy1Zzzz71Zyyy1Zzzz2Zyyy2Zzzz1Zyyy
    2Zzzz2Zyyy2Zzzz4Zyyy1Zzzz12Zyyy1Zzzz1Zyyy1Zzzz7Zyyy1Zzzz65Zyyy1Zzzz4Zyyy
    2Zzzz8Zyyy1Zzzz7Zyyy1Zzzz28Zyyy1Zzzz4Zyyy1Zzzz5Zyyy1Zzzz1Zyyy3Zzzz7Zyyy
    1Zzzz340Zyyy2Zzzz292Zyyy2Zzzz50Zyyy652Sgnw15Zzzz5Sgnw1Zzzz15Sgnw1104Zzzz
    31Latn6Zzzz6Latn213Zzzz7Glag1Zzzz17Glag2Zzzz7Glag1Zzzz2Glag1Zzzz5Glag5Zzzz
    62Cyrl33Zzzz1Cyrl112Zzzz45Hmnp3Zzzz14Hmnp2Zzzz10Hmnp4Zzzz2Hmnp320Zzzz
    31Toto17Zzzz58Wcho5Zzzz1Wcho464Zzzz42Nagm214Zzzz43Onao4Zzzz1Onao480Zzzz
    7Ethi1Zzzz4Ethi1Zzzz2Ethi1Zzzz15Ethi1Zzzz197Mend2Zzzz16Mend41Zzzz76Adlm
    4Zzzz10Adlm4Zzzz2Adlm785Zzzz68Zyyy76Zzzz61Zyyy194Zzzz4Arab1Zzzz27Arab1Zzzz
    2Arab1Zzzz1Arab2Zzzz1Arab1Zzzz10Arab1Zzzz4Arab1Zzzz1Arab1Zzzz1Arab6Zzzz
    1Arab4Zzzz1Arab1Zzzz1Arab1Zzzz1Arab1Zzzz3Arab1Zzzz2Arab1Zzzz1Arab2Zzzz
    1Arab1Zzzz1Arab1Zzzz1Arab1Zzzz1Arab1Zzzz1Arab1Zzzz2Arab1Zzzz1Arab2Zzzz
    4Arab1Zzzz7Arab1Zzzz4Arab1Zzzz4Arab1Zzzz1Arab1Zzzz10Arab1Zzzz17Arab5Zzzz
    3Arab1Zzzz5Arab1Zzzz17Arab52Zzzz2Arab270Zzzz44Zyyy4Zzzz100Zyyy12Zzzz15Zyyy
    2Zzzz15Zyyy1Zzzz15Zyyy1Zzzz37Zyyy10Zzzz174Zyyy56Zzzz26Zyyy1Hira2Zyyy13Zzzz
    44Zyyy4Zzzz9Zyyy7Zzzz2Hani14Zzzz6Zyyy154Zzzz984Zyyy4Zzzz17Zyyy3Zzzz13Zyyy
    3Zzzz119Zyyy4Zzzz95Zyyy6Zzzz12Zyyy4Zzzz1Zyyy15Zzzz12Zyyy4Zzzz56Zyyy8Zzzz
    10Zyyy6Zzzz40Zyyy8Zzzz30Zyyy2Zzzz12Zyyy4Zzzz2Zyyy62Zzzz340Zyyy12Zzzz14Zyyy
    2Zzzz13Zyyy3Zzzz10Zyyy5Zzzz56Zyyy7Zzzz15Zyyy2Zzzz11Zyyy6Zzzz9Zyyy7Zzzz
    147Zyyy1Zzzz102Zyyy1030Zzzz42720Hani32Zzzz4154Hani6Zzzz222Hani2Zzzz
    5762Hani14Zzzz7473Hani15Zzzz622Hani2466Zzzz542Hani1506Zzzz4939Hani5Zzzz
    4192Hani711761Zzzz1Zyyy30Zzzz96Zyyy128Zzzz240Zinh196112Zzzz"

/-- The partition of the code points by script. -/
def scripts : Partition := Partition.ofText scriptText

/-- The partition of the code points by the scripts that share them. -/
def sharedScripts : Partition := Partition.ofText sharedScriptText

/-- The names of each script and its tag. -/
def scriptNames : List (List String × String) :=
  [(["adlam", "adlm"], "Adlm"),
   (["aghb", "caucasianalbanian"], "Aghb"),
   (["ahom"], "Ahom"),
   (["arab", "arabic"], "Arab"),
   (["armi", "imperialaramaic"], "Armi"),
   (["armenian", "armn"], "Armn"),
   (["avestan", "avst"], "Avst"),
   (["bali", "balinese"], "Bali"),
   (["bamu", "bamum"], "Bamu"),
   (["bass", "bassavah"], "Bass"),
   (["batak", "batk"], "Batk"),
   (["beng", "bengali"], "Beng"),
   (["bhaiksuki", "bhks"], "Bhks"),
   (["bopo", "bopomofo"], "Bopo"),
   (["brah", "brahmi"], "Brah"),
   (["brai", "braille"], "Brai"),
   (["bugi", "buginese"], "Bugi"),
   (["buhd", "buhid"], "Buhd"),
   (["cakm", "chakma"], "Cakm"),
   (["canadianaboriginal", "cans"], "Cans"),
   (["cari", "carian"], "Cari"),
   (["cham"], "Cham"),
   (["cher", "cherokee"], "Cher"),
   (["chorasmian", "chrs"], "Chrs"),
   (["copt", "coptic", "qaac"], "Copt"),
   (["cpmn", "cyprominoan"], "Cpmn"),
   (["cprt", "cypriot"], "Cprt"),
   (["cyrillic", "cyrl"], "Cyrl"),
   (["deva", "devanagari"], "Deva"),
   (["diak", "divesakuru"], "Diak"),
   (["dogr", "dogra"], "Dogr"),
   (["deseret", "dsrt"], "Dsrt"),
   (["dupl", "duployan"], "Dupl"),
   (["egyp", "egyptianhieroglyphs"], "Egyp"),
   (["elba", "elbasan"], "Elba"),
   (["elym", "elymaic"], "Elym"),
   (["ethi", "ethiopic"], "Ethi"),
   (["gara", "garay"], "Gara"),
   (["geor", "georgian"], "Geor"),
   (["glag", "glagolitic"], "Glag"),
   (["gong", "gunjalagondi"], "Gong"),
   (["gonm", "masaramgondi"], "Gonm"),
   (["goth", "gothic"], "Goth"),
   (["gran", "grantha"], "Gran"),
   (["greek", "grek"], "Grek"),
   (["gujarati", "gujr"], "Gujr"),
   (["gukh", "gurungkhema"], "Gukh"),
   (["gurmukhi", "guru"], "Guru"),
   (["hang", "hangul"], "Hang"),
   (["han", "hani"], "Hani"),
   (["hano", "hanunoo"], "Hano"),
   (["hatr", "hatran"], "Hatr"),
   (["hebr", "hebrew"], "Hebr"),
   (["hira", "hiragana"], "Hira"),
   (["anatolianhieroglyphs", "hluw"], "Hluw"),
   (["hmng", "pahawhhmong"], "Hmng"),
   (["hmnp", "nyiakengpuachuehmong"], "Hmnp"),
   (["hung", "oldhungarian"], "Hung"),
   (["ital", "olditalic"], "Ital"),
   (["java", "javanese"], "Java"),
   (["kali", "kayahli"], "Kali"),
   (["kana", "katakana"], "Kana"),
   (["kawi"], "Kawi"),
   (["khar", "kharoshthi"], "Khar"),
   (["khmer", "khmr"], "Khmr"),
   (["khoj", "khojki"], "Khoj"),
   (["khitansmallscript", "kits"], "Kits"),
   (["kannada", "knda"], "Knda"),
   (["kiratrai", "krai"], "Krai"),
   (["kaithi", "kthi"], "Kthi"),
   (["lana", "taitham"], "Lana"),
   (["lao", "laoo"], "Laoo"),
   (["latin", "latn"], "Latn"),
   (["lepc", "lepcha"], "Lepc"),
   (["limb", "limbu"], "Limb"),
   (["lina", "lineara"], "Lina"),
   (["linb", "linearb"], "Linb"),
   (["lisu"], "Lisu"),
   (["lyci", "lycian"], "Lyci"),
   (["lydi", "lydian"], "Lydi"),
   (["mahajani", "mahj"], "Mahj"),
   (["maka", "makasar"], "Maka"),
   (["mand", "mandaic"], "Mand"),
   (["mani", "manichaean"], "Mani"),
   (["marc", "marchen"], "Marc"),
   (["medefaidrin", "medf"], "Medf"),
   (["mend", "mendekikakui"], "Mend"),
   (["merc", "meroiticcursive"], "Merc"),
   (["mero", "meroitichieroglyphs"], "Mero"),
   (["malayalam", "mlym"], "Mlym"),
   (["modi"], "Modi"),
   (["mong", "mongolian"], "Mong"),
   (["mro", "mroo"], "Mroo"),
   (["meeteimayek", "mtei"], "Mtei"),
   (["mult", "multani"], "Mult"),
   (["myanmar", "mymr"], "Mymr"),
   (["nagm", "nagmundari"], "Nagm"),
   (["nand", "nandinagari"], "Nand"),
   (["narb", "oldnortharabian"], "Narb"),
   (["nabataean", "nbat"], "Nbat"),
   (["newa"], "Newa"),
   (["nko", "nkoo"], "Nkoo"),
   (["nshu", "nushu"], "Nshu"),
   (["ogam", "ogham"], "Ogam"),
   (["olchiki", "olck"], "Olck"),
   (["olonal", "onao"], "Onao"),
   (["oldturkic", "orkh"], "Orkh"),
   (["oriya", "orya"], "Orya"),
   (["osage", "osge"], "Osge"),
   (["osma", "osmanya"], "Osma"),
   (["olduyghur", "ougr"], "Ougr"),
   (["palm", "palmyrene"], "Palm"),
   (["pauc", "paucinhau"], "Pauc"),
   (["oldpermic", "perm"], "Perm"),
   (["phag", "phagspa"], "Phag"),
   (["inscriptionalpahlavi", "phli"], "Phli"),
   (["phlp", "psalterpahlavi"], "Phlp"),
   (["phnx", "phoenician"], "Phnx"),
   (["miao", "plrd"], "Plrd"),
   (["inscriptionalparthian", "prti"], "Prti"),
   (["rejang", "rjng"], "Rjng"),
   (["hanifirohingya", "rohg"], "Rohg"),
   (["runic", "runr"], "Runr"),
   (["samaritan", "samr"], "Samr"),
   (["oldsoutharabian", "sarb"], "Sarb"),
   (["saur", "saurashtra"], "Saur"),
   (["sgnw", "signwriting"], "Sgnw"),
   (["shavian", "shaw"], "Shaw"),
   (["sharada", "shrd"], "Shrd"),
   (["sidd", "siddham"], "Sidd"),
   (["khudawadi", "sind"], "Sind"),
   (["sinh", "sinhala"], "Sinh"),
   (["sogd", "sogdian"], "Sogd"),
   (["oldsogdian", "sogo"], "Sogo"),
   (["sora", "sorasompeng"], "Sora"),
   (["soyo", "soyombo"], "Soyo"),
   (["sund", "sundanese"], "Sund"),
   (["sunu", "sunuwar"], "Sunu"),
   (["sylo", "sylotinagri"], "Sylo"),
   (["syrc", "syriac"], "Syrc"),
   (["tagb", "tagbanwa"], "Tagb"),
   (["takr", "takri"], "Takr"),
   (["taile", "tale"], "Tale"),
   (["newtailue", "talu"], "Talu"),
   (["tamil", "taml"], "Taml"),
   (["tang", "tangut"], "Tang"),
   (["taiviet", "tavt"], "Tavt"),
   (["telu", "telugu"], "Telu"),
   (["tfng", "tifinagh"], "Tfng"),
   (["tagalog", "tglg"], "Tglg"),
   (["thaa", "thaana"], "Thaa"),
   (["thai"], "Thai"),
   (["tibetan", "tibt"], "Tibt"),
   (["tirh", "tirhuta"], "Tirh"),
   (["tangsa", "tnsa"], "Tnsa"),
   (["todhri", "todr"], "Todr"),
   (["toto"], "Toto"),
   (["tulutigalari", "tutg"], "Tutg"),
   (["ugar", "ugaritic"], "Ugar"),
   (["vai", "vaii"], "Vaii"),
   (["vith", "vithkuqi"], "Vith"),
   (["wara", "warangciti"], "Wara"),
   (["wancho", "wcho"], "Wcho"),
   (["oldpersian", "xpeo"], "Xpeo"),
   (["cuneiform", "xsux"], "Xsux"),
   (["yezi", "yezidi"], "Yezi"),
   (["yi", "yiii"], "Yiii"),
   (["zanabazarsquare", "zanb"], "Zanb"),
   (["inherited", "qaai", "zinh"], "Zinh"),
   (["common", "zyyy"], "Zyyy")]

/-- The tag of a script by its name in lower case without separators. -/
def scriptTag? (name : String) : Option String :=
  (scriptNames.find? fun (names, _) => names.contains name).map Prod.snd

/-- The characters of a script. -/
def scriptNamed? (name : String) : Option CodeSet :=
  (scriptTag? name).map fun wanted => scripts.select (· == wanted)

/-- The characters that a script shares with others, and its own. -/
def sharedScriptNamed? (name : String) : Option CodeSet :=
  (scriptTag? name).map fun wanted =>
    sharedScripts.select fun tag =>
      (Text.pieces '+' tag.toList).contains wanted.toList

end DocQuery.Unicode
