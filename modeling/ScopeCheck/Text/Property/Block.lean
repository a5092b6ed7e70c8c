/-!
# Blocks

One row for each block: its names, which begin with `in`, and its code points as a gap and a
length in hexadecimal.
-/

namespace ScopeCheck.Text.Property

/-- The blocks. -/
def blocks : List (List String × String) := [
  (["inascii", "inbasiclatin"], "0 80"),
  (["inlatin1sup", "inlatin1supplement", "inlatin1"], "80 80"),
  (["inlatinexta", "inlatinextendeda"], "100 80"),
  (["inlatinextb", "inlatinextendedb"], "180 d0"),
  (["inipaext", "inipaextensions"], "250 60"),
  (["inmodifierletters", "inspacingmodifierletters"], "2b0 50"),
  (["indiacriticals", "incombiningdiacriticalmarks"], "300 70"),
  (["ingreek", "ingreekandcoptic"], "370 90"),
  (["incyrillic"], "400 100"),
  (["incyrillicsup", "incyrillicsupplement", "incyrillicsupplementary"], "500 30"),
  (["inarmenian"], "530 60"),
  (["inhebrew"], "590 70"),
  (["inarabic"], "600 100"),
  (["insyriac"], "700 50"),
  (["inarabicsup", "inarabicsupplement"], "750 30"),
  (["inthaana"], "780 40"),
  (["innko"], "7c0 40"),
  (["insamaritan"], "800 40"),
  (["inmandaic"], "840 20"),
  (["insyriacsup", "insyriacsupplement"], "860 10"),
  (["inarabicextb", "inarabicextendedb"], "870 30"),
  (["inarabicexta", "inarabicextendeda"], "8a0 60"),
  (["indevanagari"], "900 80"),
  (["inbengali"], "980 80"),
  (["ingurmukhi"], "a00 80"),
  (["ingujarati"], "a80 80"),
  (["inoriya"], "b00 80"),
  (["intamil"], "b80 80"),
  (["intelugu"], "c00 80"),
  (["inkannada"], "c80 80"),
  (["inmalayalam"], "d00 80"),
  (["insinhala"], "d80 80"),
  (["inthai"], "e00 80"),
  (["inlao"], "e80 80"),
  (["intibetan"], "f00 100"),
  (["inmyanmar"], "1000 a0"),
  (["ingeorgian"], "10a0 60"),
  (["injamo", "inhanguljamo"], "1100 100"),
  (["inethiopic"], "1200 180"),
  (["inethiopicsup", "inethiopicsupplement"], "1380 20"),
  (["incherokee"], "13a0 60"),
  (["inucas", "inunifiedcanadianaboriginalsyllabics", "incanadiansyllabics"], "1400 280"),
  (["inogham"], "1680 20"),
  (["inrunic"], "16a0 60"),
  (["intagalog"], "1700 20"),
  (["inhanunoo"], "1720 20"),
  (["inbuhid"], "1740 20"),
  (["intagbanwa"], "1760 20"),
  (["inkhmer"], "1780 80"),
  (["inmongolian"], "1800 b0"),
  (["inucasext", "inunifiedcanadianaboriginalsyllabicsextended"], "18b0 50"),
  (["inlimbu"], "1900 50"),
  (["intaile"], "1950 30"),
  (["innewtailue"], "1980 60"),
  (["inkhmersymbols"], "19e0 20"),
  (["inbuginese"], "1a00 20"),
  (["intaitham"], "1a20 90"),
  (["indiacriticalsext", "incombiningdiacriticalmarksextended"], "1ab0 50"),
  (["inbalinese"], "1b00 80"),
  (["insundanese"], "1b80 40"),
  (["inbatak"], "1bc0 40"),
  (["inlepcha"], "1c00 50"),
  (["inolchiki"], "1c50 30"),
  (["incyrillicextc", "incyrillicextendedc"], "1c80 10"),
  (["ingeorgianext", "ingeorgianextended"], "1c90 30"),
  (["insundanesesup", "insundanesesupplement"], "1cc0 10"),
  (["invedicext", "invedicextensions"], "1cd0 30"),
  (["inphoneticext", "inphoneticextensions"], "1d00 80"),
  (["inphoneticextsup", "inphoneticextensionssupplement"], "1d80 40"),
  (["indiacriticalssup", "incombiningdiacriticalmarkssupplement"], "1dc0 40"),
  (["inlatinextadditional", "inlatinextendedadditional"], "1e00 100"),
  (["ingreekext", "ingreekextended"], "1f00 100"),
  (["inpunctuation", "ingeneralpunctuation"], "2000 70"),
  (["insuperandsub", "insuperscriptsandsubscripts"], "2070 30"),
  (["incurrencysymbols"], "20a0 30"),
  (["indiacriticalsforsymbols", "incombiningdiacriticalmarksforsymbols",
    "incombiningmarksforsymbols"], "20d0 30"),
  (["inletterlikesymbols"], "2100 50"),
  (["innumberforms"], "2150 40"),
  (["inarrows"], "2190 70"),
  (["inmathoperators", "inmathematicaloperators"], "2200 100"),
  (["inmisctechnical", "inmiscellaneoustechnical"], "2300 100"),
  (["incontrolpictures"], "2400 40"),
  (["inocr", "inopticalcharacterrecognition"], "2440 20"),
  (["inenclosedalphanum", "inenclosedalphanumerics"], "2460 a0"),
  (["inboxdrawing"], "2500 80"),
  (["inblockelements"], "2580 20"),
  (["ingeometricshapes"], "25a0 60"),
  (["inmiscsymbols", "inmiscellaneoussymbols"], "2600 100"),
  (["indingbats"], "2700 c0"),
  (["inmiscmathsymbolsa", "inmiscellaneousmathematicalsymbolsa"], "27c0 30"),
  (["insuparrowsa", "insupplementalarrowsa"], "27f0 10"),
  (["inbraille", "inbraillepatterns"], "2800 100"),
  (["insuparrowsb", "insupplementalarrowsb"], "2900 80"),
  (["inmiscmathsymbolsb", "inmiscellaneousmathematicalsymbolsb"], "2980 80"),
  (["insupmathoperators", "insupplementalmathematicaloperators"], "2a00 100"),
  (["inmiscarrows", "inmiscellaneoussymbolsandarrows"], "2b00 100"),
  (["inglagolitic"], "2c00 60"),
  (["inlatinextc", "inlatinextendedc"], "2c60 20"),
  (["incoptic"], "2c80 80"),
  (["ingeorgiansup", "ingeorgiansupplement"], "2d00 30"),
  (["intifinagh"], "2d30 50"),
  (["inethiopicext", "inethiopicextended"], "2d80 60"),
  (["incyrillicexta", "incyrillicextendeda"], "2de0 20"),
  (["insuppunctuation", "insupplementalpunctuation"], "2e00 80"),
  (["incjkradicalssup", "incjkradicalssupplement"], "2e80 80"),
  (["inkangxi", "inkangxiradicals"], "2f00 e0"),
  (["inidc", "inideographicdescriptioncharacters"], "2ff0 10"),
  (["incjksymbols", "incjksymbolsandpunctuation"], "3000 40"),
  (["inhiragana"], "3040 60"),
  (["inkatakana"], "30a0 60"),
  (["inbopomofo"], "3100 30"),
  (["incompatjamo", "inhangulcompatibilityjamo"], "3130 60"),
  (["inkanbun"], "3190 10"),
  (["inbopomofoext", "inbopomofoextended"], "31a0 20"),
  (["incjkstrokes"], "31c0 30"),
  (["inkatakanaext", "inkatakanaphoneticextensions"], "31f0 10"),
  (["inenclosedcjk", "inenclosedcjklettersandmonths"], "3200 100"),
  (["incjkcompat", "incjkcompatibility"], "3300 100"),
  (["incjkexta", "incjkunifiedideographsextensiona"], "3400 19c0"),
  (["inyijing", "inyijinghexagramsymbols"], "4dc0 40"),
  (["incjk", "incjkunifiedideographs"], "4e00 5200"),
  (["inyisyllables"], "a000 490"),
  (["inyiradicals"], "a490 40"),
  (["inlisu"], "a4d0 30"),
  (["invai"], "a500 140"),
  (["incyrillicextb", "incyrillicextendedb"], "a640 60"),
  (["inbamum"], "a6a0 60"),
  (["inmodifiertoneletters"], "a700 20"),
  (["inlatinextd", "inlatinextendedd"], "a720 e0"),
  (["insylotinagri"], "a800 30"),
  (["inindicnumberforms", "incommonindicnumberforms"], "a830 10"),
  (["inphagspa"], "a840 40"),
  (["insaurashtra"], "a880 60"),
  (["indevanagariext", "indevanagariextended"], "a8e0 20"),
  (["inkayahli"], "a900 30"),
  (["inrejang"], "a930 30"),
  (["injamoexta", "inhanguljamoextendeda"], "a960 20"),
  (["injavanese"], "a980 60"),
  (["inmyanmarextb", "inmyanmarextendedb"], "a9e0 20"),
  (["incham"], "aa00 60"),
  (["inmyanmarexta", "inmyanmarextendeda"], "aa60 20"),
  (["intaiviet"], "aa80 60"),
  (["inmeeteimayekext", "inmeeteimayekextensions"], "aae0 20"),
  (["inethiopicexta", "inethiopicextendeda"], "ab00 30"),
  (["inlatinexte", "inlatinextendede"], "ab30 40"),
  (["incherokeesup", "incherokeesupplement"], "ab70 50"),
  (["inmeeteimayek"], "abc0 40"),
  (["inhangul", "inhangulsyllables"], "ac00 2bb0"),
  (["injamoextb", "inhanguljamoextendedb"], "d7b0 50"),
  (["inhighsurrogates"], "d800 380"),
  (["inhighpusurrogates", "inhighprivateusesurrogates"], "db80 80"),
  (["inlowsurrogates"], "dc00 400"),
  (["inpua", "inprivateusearea", "inprivateuse"], "e000 1900"),
  (["incjkcompatideographs", "incjkcompatibilityideographs"], "f900 200"),
  (["inalphabeticpf", "inalphabeticpresentationforms"], "fb00 50"),
  (["inarabicpfa", "inarabicpresentationformsa"], "fb50 2b0"),
  (["invs", "invariationselectors"], "fe00 10"),
  (["inverticalforms"], "fe10 10"),
  (["inhalfmarks", "incombininghalfmarks"], "fe20 10"),
  (["incjkcompatforms", "incjkcompatibilityforms"], "fe30 20"),
  (["insmallforms", "insmallformvariants"], "fe50 20"),
  (["inarabicpfb", "inarabicpresentationformsb"], "fe70 90"),
  (["inhalfandfullforms", "inhalfwidthandfullwidthforms"], "ff00 f0"),
  (["inspecials"], "fff0 10"),
  (["inlinearbsyllabary"], "10000 80"),
  (["inlinearbideograms"], "10080 80"),
  (["inaegeannumbers"], "10100 40"),
  (["inancientgreeknumbers"], "10140 50"),
  (["inancientsymbols"], "10190 40"),
  (["inphaistos", "inphaistosdisc"], "101d0 30"),
  (["inlycian"], "10280 20"),
  (["incarian"], "102a0 40"),
  (["incopticepactnumbers"], "102e0 20"),
  (["inolditalic"], "10300 30"),
  (["ingothic"], "10330 20"),
  (["inoldpermic"], "10350 30"),
  (["inugaritic"], "10380 20"),
  (["inoldpersian"], "103a0 40"),
  (["indeseret"], "10400 50"),
  (["inshavian"], "10450 30"),
  (["inosmanya"], "10480 30"),
  (["inosage"], "104b0 50"),
  (["inelbasan"], "10500 30"),
  (["incaucasianalbanian"], "10530 40"),
  (["invithkuqi"], "10570 50"),
  (["inlineara"], "10600 180"),
  (["inlatinextf", "inlatinextendedf"], "10780 40"),
  (["incypriotsyllabary"], "10800 40"),
  (["inimperialaramaic"], "10840 20"),
  (["inpalmyrene"], "10860 20"),
  (["innabataean"], "10880 30"),
  (["inhatran"], "108e0 20"),
  (["inphoenician"], "10900 20"),
  (["inlydian"], "10920 20"),
  (["inmeroitichieroglyphs"], "10980 20"),
  (["inmeroiticcursive"], "109a0 60"),
  (["inkharoshthi"], "10a00 60"),
  (["inoldsoutharabian"], "10a60 20"),
  (["inoldnortharabian"], "10a80 20"),
  (["inmanichaean"], "10ac0 40"),
  (["inavestan"], "10b00 40"),
  (["ininscriptionalparthian"], "10b40 20"),
  (["ininscriptionalpahlavi"], "10b60 20"),
  (["inpsalterpahlavi"], "10b80 30"),
  (["inoldturkic"], "10c00 50"),
  (["inoldhungarian"], "10c80 80"),
  (["inhanifirohingya"], "10d00 40"),
  (["inrumi", "inruminumeralsymbols"], "10e60 20"),
  (["inyezidi"], "10e80 40"),
  (["inarabicextc", "inarabicextendedc"], "10ec0 40"),
  (["inoldsogdian"], "10f00 30"),
  (["insogdian"], "10f30 40"),
  (["inolduyghur"], "10f70 40"),
  (["inchorasmian"], "10fb0 30"),
  (["inelymaic"], "10fe0 20"),
  (["inbrahmi"], "11000 80"),
  (["inkaithi"], "11080 50"),
  (["insorasompeng"], "110d0 30"),
  (["inchakma"], "11100 50"),
  (["inmahajani"], "11150 30"),
  (["insharada"], "11180 60"),
  (["insinhalaarchaicnumbers"], "111e0 20"),
  (["inkhojki"], "11200 50"),
  (["inmultani"], "11280 30"),
  (["inkhudawadi"], "112b0 50"),
  (["ingrantha"], "11300 80"),
  (["innewa"], "11400 80"),
  (["intirhuta"], "11480 60"),
  (["insiddham"], "11580 80"),
  (["inmodi"], "11600 60"),
  (["inmongoliansup", "inmongoliansupplement"], "11660 20"),
  (["intakri"], "11680 50"),
  (["inahom"], "11700 50"),
  (["indogra"], "11800 50"),
  (["inwarangciti"], "118a0 60"),
  (["indivesakuru"], "11900 60"),
  (["innandinagari"], "119a0 60"),
  (["inzanabazarsquare"], "11a00 50"),
  (["insoyombo"], "11a50 60"),
  (["inucasexta", "inunifiedcanadianaboriginalsyllabicsextendeda"], "11ab0 10"),
  (["inpaucinhau"], "11ac0 40"),
  (["indevanagariexta", "indevanagariextendeda"], "11b00 60"),
  (["inbhaiksuki"], "11c00 70"),
  (["inmarchen"], "11c70 50"),
  (["inmasaramgondi"], "11d00 60"),
  (["ingunjalagondi"], "11d60 50"),
  (["inmakasar"], "11ee0 20"),
  (["inkawi"], "11f00 60"),
  (["inlisusup", "inlisusupplement"], "11fb0 10"),
  (["intamilsup", "intamilsupplement"], "11fc0 40"),
  (["incuneiform"], "12000 400"),
  (["incuneiformnumbers", "incuneiformnumbersandpunctuation"], "12400 80"),
  (["inearlydynasticcuneiform"], "12480 d0"),
  (["incyprominoan"], "12f90 70"),
  (["inegyptianhieroglyphs"], "13000 430"),
  (["inegyptianhieroglyphformatcontrols"], "13430 30"),
  (["inanatolianhieroglyphs"], "14400 280"),
  (["inbamumsup", "inbamumsupplement"], "16800 240"),
  (["inmro"], "16a40 30"),
  (["intangsa"], "16a70 60"),
  (["inbassavah"], "16ad0 30"),
  (["inpahawhhmong"], "16b00 90"),
  (["inmedefaidrin"], "16e40 60"),
  (["inmiao"], "16f00 a0"),
  (["inideographicsymbols", "inideographicsymbolsandpunctuation"], "16fe0 20"),
  (["intangut"], "17000 1800"),
  (["intangutcomponents"], "18800 300"),
  (["inkhitansmallscript"], "18b00 200"),
  (["intangutsup", "intangutsupplement"], "18d00 80"),
  (["inkanaextb", "inkanaextendedb"], "1aff0 10"),
  (["inkanasup", "inkanasupplement"], "1b000 100"),
  (["inkanaexta", "inkanaextendeda"], "1b100 30"),
  (["insmallkanaext", "insmallkanaextension"], "1b130 40"),
  (["innushu"], "1b170 190"),
  (["induployan"], "1bc00 a0"),
  (["inshorthandformatcontrols"], "1bca0 10"),
  (["inznamennymusic", "inznamennymusicalnotation"], "1cf00 d0"),
  (["inbyzantinemusic", "inbyzantinemusicalsymbols"], "1d000 100"),
  (["inmusic", "inmusicalsymbols"], "1d100 100"),
  (["inancientgreekmusic", "inancientgreekmusicalnotation"], "1d200 50"),
  (["inkaktoviknumerals"], "1d2c0 20"),
  (["inmayannumerals"], "1d2e0 20"),
  (["intaixuanjing", "intaixuanjingsymbols"], "1d300 60"),
  (["incountingrod", "incountingrodnumerals"], "1d360 20"),
  (["inmathalphanum", "inmathematicalalphanumericsymbols"], "1d400 400"),
  (["insuttonsignwriting"], "1d800 2b0"),
  (["inlatinextg", "inlatinextendedg"], "1df00 100"),
  (["inglagoliticsup", "inglagoliticsupplement"], "1e000 30"),
  (["incyrillicextd", "incyrillicextendedd"], "1e030 60"),
  (["innyiakengpuachuehmong"], "1e100 50"),
  (["intoto"], "1e290 30"),
  (["inwancho"], "1e2c0 40"),
  (["innagmundari"], "1e4d0 30"),
  (["inethiopicextb", "inethiopicextendedb"], "1e7e0 20"),
  (["inmendekikakui"], "1e800 e0"),
  (["inadlam"], "1e900 60"),
  (["inindicsiyaqnumbers"], "1ec70 50"),
  (["inottomansiyaqnumbers"], "1ed00 50"),
  (["inarabicmath", "inarabicmathematicalalphabeticsymbols"], "1ee00 100"),
  (["inmahjong", "inmahjongtiles"], "1f000 30"),
  (["indomino", "indominotiles"], "1f030 70"),
  (["inplayingcards"], "1f0a0 60"),
  (["inenclosedalphanumsup", "inenclosedalphanumericsupplement"], "1f100 100"),
  (["inenclosedideographicsup", "inenclosedideographicsupplement"], "1f200 100"),
  (["inmiscpictographs", "inmiscellaneoussymbolsandpictographs"], "1f300 300"),
  (["inemoticons"], "1f600 50"),
  (["inornamentaldingbats"], "1f650 30"),
  (["intransportandmap", "intransportandmapsymbols"], "1f680 80"),
  (["inalchemical", "inalchemicalsymbols"], "1f700 80"),
  (["ingeometricshapesext", "ingeometricshapesextended"], "1f780 80"),
  (["insuparrowsc", "insupplementalarrowsc"], "1f800 100"),
  (["insupsymbolsandpictographs", "insupplementalsymbolsandpictographs"], "1f900 100"),
  (["inchesssymbols"], "1fa00 70"),
  (["insymbolsandpictographsexta", "insymbolsandpictographsextendeda"], "1fa70 90"),
  (["insymbolsforlegacycomputing"], "1fb00 100"),
  (["incjkextb", "incjkunifiedideographsextensionb"], "20000 a6e0"),
  (["incjkextc", "incjkunifiedideographsextensionc"], "2a700 1040"),
  (["incjkextd", "incjkunifiedideographsextensiond"], "2b740 e0"),
  (["incjkexte", "incjkunifiedideographsextensione"], "2b820 1690"),
  (["incjkextf", "incjkunifiedideographsextensionf"], "2ceb0 1d40"),
  (["incjkcompatideographssup", "incjkcompatibilityideographssupplement"], "2f800 220"),
  (["incjkextg", "incjkunifiedideographsextensiong"], "30000 1350"),
  (["incjkexth", "incjkunifiedideographsextensionh"], "31350 1060"),
  (["intags"], "e0000 80"),
  (["invssup", "invariationselectorssupplement"], "e0100 f0"),
  (["insuppuaa", "insupplementaryprivateuseareaa"], "f0000 10000"),
  (["insuppuab", "insupplementaryprivateuseareab"], "100000 10000")]

end ScopeCheck.Text.Property
