/-!
# Names of characters: scripts of everyday use

Each run starts with the code point of its first name; the names that follow are those of the code
points behind it, on as many lines as they need. The letter or sign before a name says how many
characters it shares with the name before it; any other sign in it stands for a word.
-/

namespace TextShell.CharName

/-- Letters, digits and marks of the scripts that are in everyday use, up to `U+1FFF`. -/
def scripts : List (Nat × List String) := [
  (32, ["aSPACEaEXCսAбμaQUքбμaс^aDOLLAR^aզCг^aAMզSДbPOSTROPHEaθúa| úaASжISKaPLUS^aПaHYPHEN-MINUS",
    "aÎaSOLIDUSaágÍgÃhþgñhлgГhÛgìgÞaCOLONaSEMICOLONaó^aաS^aã^aQUESбμaCOMMERCIиATaя>(AvBvCvDvEvFv",
    "GvHvIvJvKvLvMvNvOvPvQvRvSvTvUvVvWvXvYvZbEFT êπaREОSE SOLIDUSbIGHT êπaω ACCгaВоaмVE ACCгaя?(",
    "AtBtCtDtEtFtGtHtItJtKtLtMtNtOtPtQtRtStTtUtVtWtXtYtZbEFT CURLYπaδ оa| CURLYπaÏ"]),
  (160, ["aNO-BREAK SPACEaðEXCսAбμaCг^aPOUND^aCURRENCY^aYEN^aBROKENдaSECб^aèaCOPY|^aFEMIÞ ORDINи",
    "INDICATORaÝ-κ α йLE QUքбμaNOT^aSOFT HYPHENaREGISжED^aÚaDEУ^aPLUS-MINUS^aSUզтÃnþaÕ ACCгaMICR",
    "O^aPILCROW^aξØaճaSUզтÍaMASCUо ORDINиINDICATORa|-κ α йLE QUքбμaVULGAR FRACб Í QUARжuHALFqTþ ",
    "QUARжSaðQUESбμaя>(A)мVE$Õ$ω$Ï$è$Rе_wEvC)ճvE)мVE$Õ$ω$èvI)мVE$Õ$ω$èvETHvN)ÏvO)мVE$Õ$ω$Ï$èaMUL",
    "TIPLICAб^aя>(O)νvU)мVE$Õ$ω$èvY)ÕvTHORNg?(чRP StA)мVE!Õ!ω!Ï!è!Rе_uEtC)ճtE)мVE!Õ!ω!ètI)мVE!Õ!",
    "ω!ètETHtN)ÏtO)мVE!Õ!ω!Ï!èaDIVISION^aя?(O)νtU)мVE!Õ!ω!ètY)ÕtTHORNtY)èg>(A)Úg?(A)Úg>(A)Хg?(A)",
    "Хg>(A)OGÍKg?(A)OGÍKg>(C)Õg?(C)Õg>(C)ωg?(C)ωg>(C)Ø_g?(C)Ø_g>(C)յg?(C)յg>(D)յg?(D)յg>(D)νg?(D",
    ")νg>(E)Úg?(E)Úg>(E)Хg?(E)Хg>(E)Ø_g?(E)Ø_g>(E)OGÍKg?(E)OGÍKg>(E)յg?(E)յg>(G)ωg?(G)ωg>(G)Хg?(",
    "G)Хg>(G)Ø_g?(G)Ø_g>(G)ճg?(G)ճg>(H)ωg?(H)ωg>(H)νg?(H)νg>(I)Ïg?(I)Ïg>(I)Úg?(I)Úg>(I)Хg?(I)Хg>",
    "(I)OGÍKg?(I)OGÍKg>(I)Ø_g?(ØLESS Ig> LюIJg? LюIJg>(J)ωg?(J)ωg>(K)ճg?(K)ճuRAg>(L)Õg?(L)Õg>(L)",
    "ճg?(L)ճg>(L)յg?(L)յg>(L)ξØg?(L)ξØg>(L)νg?(L)νg>(N)Õg?(N)Õg>(N)ճg?(N)ճg>(N)յg?(N)յvPRECEDвBY",
    " APOSTROPHEg>(ENGg?(ENGg>(O)Úg?(O)Úg>(O)Хg?(O)Хg>(O)α Õg?(O)α Õg> LюOEg? LюOEg>(R)Õg?(R)Õg>",
    "(R)ճg?(R)ճg>(R)յg?(R)յg>(S)Õg?(S)Õg>(S)ωg?(S)ωg>(S)ճg?(S)ճg>(S)յg?(S)յg>(T)ճg?(T)ճg>(T)յg?(",
    "T)յg>(T)νg?(T)νg>(U)Ïg?(U)Ïg>(U)Úg?(U)Úg>(U)Хg?(U)Хg>(U)Rе_g?(U)Rе_g>(U)α Õg?(U)α Õg>(U)OGÍ",
    "Kg?(U)OGÍKg>(W)ωg?(W)ωg>(Y)ωg?(Y)ωg>(Y)èvZ)Õg?(Z)Õg>(Z)Ø_g?(Z)Ø_g>(Z)յg?(Z)յtАStB)νg>(B)Á$T",
    "OPBARg?(B)TOPBARg>(TÍ Гg?(TÍ Гg>(ЕOvC)Ág?(C)Ág>(AFRICAN DvD)Á$TOPBARg?(D)TOPBARtöDELTAg>(éE",
    "vSCHWAvЕEvF)Ág?(F)Ág>(G)ÁwAMMAg?(HVg>(Iքw)νvK)Ág?(K)ÁtL)BARuAMBDA)νg>(öMvN)θÁg?(N)А| LEGg>(",
    "O)ξÏ$HORNg?(O)HORNg>(OIg?(OIg>(P)Ág?(P)ÁgυYRg>(TÍ Ãg?(TÍ Ãg>(ESHgυéESH LOOPg?(T)PALATиÁg>(T",
    ")Ág?(T)Ág>(T)ívU)HORNg?(U)HORNg>(UнONvV)ÁvY)Ág?(Y)Ág>(Z)νg?(Z)νg>(EZHy REОSEDg?(EZH REОSEDx",
    "WITH ЩgυÃ)νg>(TÍ Fлg?(TÍ FлgυðGLOTTиSTOP)νnWYNNnDгиCLICKnLAжиCLICKnALVEOLAR CLICKnRETROFLEX",
    " CLICKg>(DZ)յw)?(Z)յg?(DZ)յg>(LJw)?(Jg?(LJg>(NJw)?(Jg?(NJg>(A)յg?(A)յg>(I)յg?(I)յg>(O)յg?(O",
    ")յg>(U)յg?(U)յg>(U)è]Úg?(U)è]Úg>(U)è]Õg?(U)è]Õg>(U)è]յg?(U)è]յg>(U)è]мVEg?(U)è]мVEtöEg>(A)è",
    "]Úg?(A)è]Úg>(A)Ø_]Úg?(A)Ø_]Úg>(AE)Úg?(AE)Úg>(G)νg?(G)νg>(G)յg?(G)յg>(K)յg?(K)յg>(O)OGÍKg?(O",
    ")OGÍKg>(O)OGÍK]Úg?(O)OGÍK]Úg>(EZH)յg?(EZH)յtJ)յg>(DZw)?(Zg?(DZg>(G)Õg?(G)Õg>(HWAIRvWYNNvN)м",
    "VEg?(N)мVEg>(A)Rе_]Õg?(A)Rе_]Õg>(AE)Õg?(AE)Õg>(O)ν]Õg?(O)ν]Õg>(A)α мVEg?(A)α мVEg>(A)ðХg?(A",
    ")ðХg>(E)α мVEg?(E)α мVEg>(E)ðХg?(E)ðХg>(I)α мVEg?(I)α мVEg>(I)ðХg?(I)ðХg>(O)α мVEg?(O)α мVE",
    "g>(O)ðХg?(O)ðХg>(R)α мVEg?(R)α мVEg>(R)ðХg?(R)ðХg>(U)α мVEg?(U)α мVEg>(U)ðХg?(U)ðХg>(S)Пγg?",
    "(S)Пγg>(T)Пγg?(T)Пγg>(YOGHg?(YOGHg>(H)յg?(H)յg>(N)А| LEGg?(D)CURLg>(OUg?(OUg>(Z)Ág?(Z)Ág>(A",
    ")Ø_g?(A)Ø_g>(E)ճg?(E)ճg>(O)è]Úg?(O)è]Úg>(O)Ï]Úg?(O)Ï]Úg>(O)Ø_g?(O)Ø_g>(O)Ø_]Úg?(O)Ø_]Úg>(Y)",
    "Úg?(Y)ÚtL)CURLtN)CURLtT)CURLtØLESS JuB DIмPHtQP DIмPHg>(A)νvC)νg?(C)νg>(L)BARvT)Риνg?(S)SWЬ",
    " ЩtZ)SWЬ Щg>(GLOTTиSTOPg?(GLOTTиSTOPg>(B)νvUдvöVvE)νg?(E)νg>(J)νg?(J)νg>(? Q)Á Щg?(Q)Á Щg>(",
    "R)νg?(R)νg>(Y)νg?(Y)νtöAtALPHAtöALPHAtB)ÁtЕOtC)CURLtD)Щ!ÁtéEtSCHWAy)ÁtЕEtéЕE.)ÁtCLOSвéЕEtØL",
    "ESS J)νtG)ÁtтGgυ? > Gg?(GAMMAtRAMS HORNtöHtH)ÁuENG)ÁtI)νuքgυ? > Ig?(L)ξÏ!BELT!íuEZHtöM#)АLE",
    "GtM)ÁtN)θÁ!ígυ? > Ng?(BARRвOgυ? > OEg?(CLOSвOMEGAtPHItöR#)АLEG,ÁtR)АLEG!Щ!FISHÁuEОSвR)FISHÁ",
    "gυ? > R#ðRg?(S)ÁtESHtØLESS J)ν]ÁtSQUAT éESHtESH)CURLtöTu)ítUдuнONtV)ÁtöV!W!Ygυ? > Yg?(Z)í!C",
    "URLtEZHw)CURLgυGLOTTиSTOPnPHARYNGEиVOICвFRICATлnðGLOTTиSTOPnSTRETCHвCnBILABIиCLICKn? > Bg?(",
    "CLOSвЕEgυ? > G)Á#Hg?(J)кED-ЩtöKgυ? > Lg?(Q)ÁgυGLOTTиSTOP)νnéGLOTTиSTOP)νg?(DZ DIмPHuEZH DIм",
    "PHuZ DIмPH)CURLtTS DIмPHuESH DIмPHuC DIмPH)CURLtFENG DIмPHtLS DIмPHuZ DIмPHgυBILABIиզCUSSлp",
    "DгиզCUSSлg?(öH)FISHÁ=OK]ЩaЗ(? Hx)ÁwJwRwöR&)Áw> ðRwWwYqPRIMEqα PRIMEqöПqAPOSTROPHEqéПrIGHT Ì",
    "RеqθÌRеqGLOTTиSTOPqéGLOTTиSTOPqÝ[хq|[хqUP[хqÐ[хqω ACCгaյaЗ(δ оqÚqÕ ACCгqмVE ACCгqВδ оuÚuмVE",
    " ACCгuÕ ACCгqTRIйФCOLONqÌTRIйФCOLONqCгRв| ÌRеyθÌRеqUP TACKqÐ TACKqPLUS^qMINUS^aХaØ_aRе_aOGÍ",
    "Ka? Ïaα Õ ACCгaЗ(RHOTջÁqк ACCгq? GAMMAwLwSwXwéGLOTTиSTOPqEXTRA-ыTÍдqыTÍдqMID TÍдqВTÍдqEXTRA",
    "-ВTÍдqYIN DEPARTаTÍμrй DEPARTаTÍμqVOICеqUNASPIRATEDqα APOSTROPHEqВÐ[хuUP[хuÝ[хu|[хwNGqξмVE ",
    "ACCгxα мVE ACCг&Õ ACCгqВÏqRAISвCOLONqBEGIN ыTÍqEND ыTÍqBEGIN ВTÍqEND ВTÍqSHELFqЕSHELFqВÝ[aÈ",
    "мVE ACCгkÕ ACCгkω ACCгkÏkÚkOОоkХkØ_lIAERESISkÁ_kRе_kα Õ ACCгkյkδ о_kα δ о_rмVE ACCгkцkðХköП",
    "_kП_kéП_kП_ |kмVE ACCгγkÕ ACCгγkθTACKγk| TACKγkθйLE_kHORNkθÌRеγkUP TACKγkÐ TACKγkPLUS^γkMIN",
    "US^γkPALATALIZвÁγkíγkØγlIAERESISγkRеγkПγlEDILLAkOGÍKkδ оγkBRIDGEγkðα ARCHγkյγlIRCUMFLEX ACC",
    "гγkХγkðХγkÏγkÚγkВоkα ВоkÏ OОLAYkИ ν OОLAYkАν OОLAYkИ SOLIDUS OОLAYkАSOLIDUS OОLAYk| ÌRеγkðB",
    "RIDGEγkêγlEAGULLγkX_kδ Ïkα OОоkмVE TÍμkÕ TÍμkУK ùqKORONISqDIALYTIKA TONOSqõkBRIDGE_kաS^γkα ",
    "δ оγkθйLEγkNOT Ï_kHOMOձTIC_kALMOSTâ_kθ|[γkUPæ[γkмPHEME JOINERk|[х_kθÌRе_kFERMATAkXγkÝ[хγk|[",
    "хγ!Д UP[хγqÌRе_kØ_ |kASжISKγkα RеγkZIGZAG_kα ХγwrÚxγrÏrðХr|æ[γkя?(A%E%I%O%U%C%D%H%M%R%T%V%X",
    "aУK >(HETAg?(HETAg>(լC SAMPIg?(լC SAMPIgNUMERAL^gôNUMERAL^g>(PAMPHYLЦDIGAMMAg?(PAMPHYLЦDIGA",
    "MMA"]),
  (890, ["aУK õg? éLUNATE SIGMAζmØTвLUNATE SIGMAζméØTвLUNATE SIGMAζgQUESбμg>(YOT"]),
  (900, ["aУK TONOSgDIALYTIKA TONOSg>(ALPHA)TONOSgANO TELEIAg>(EнON)TONOSwTA)TONOSvIք)TONOS"]),
  (908, ["aУK >(OMICRON)TONOS"]),
  (910, ["aУK >(UнON)TONOSvOMEGA)TONOSg?(Iք)DIALYTIKA]TONOSg>(ALPHAvBETAvGAMMAvDELTAvEнONvZETAvE",
    "TAvձTAvIքvKAPPAvսDAvMUvNUvXIvOMICRONvPIvRHO"]),
  (931, ["aУK >(SIGMAvTAUvUнONvPHIvCHIvPSIvOMEGAvIք)DIALYTIKAvUнON)DIALYTIKAg?(ALPHA)TONOStEнON)",
    "TONOSuTA)TONOStIք)TONOStUнON)DIALYTIKA]TONOStALPHAtBETAtGAMMAtDELTAtEнONtZETAtETAtձTAtIքtKA",
    "PPAtսDAtMUtNUtXItOMICRONtPItRHOtι SIGMAtSIGMAtTAUtUнONtPHItCHItPSItOMEGAtIք)DIALYTIKAtUнON)",
    "DIALYTIKAtOMICRON)TONOStUнON)TONOStOMEGA)TONOSg> KAIζgBETAζgձTAζgUнON)ÁζtÕ]Áζtè]ÁζgPHIζhIζg",
    "KAIζgυլC KOPPAg?(լC KOPPAgυSTIGMAg?(STIGMAgυDIGAMMAg?(DIGAMMAgυKOPPAg?(KOPPAgυSAMPIg?(SAMPI",
    "aCOPTջ>(SHEIh?(SHEIh>(FEIh?(FEIh>(KHEIh?(KHEIh>(HORIh?(HORIh>(GйIAh?(GйIAh>(SHIMAh?(SHIMAh>",
    "(DEIh?(DEIaУK KAPPAζgRHOζgLUNATE SIGMAζhETж YOTg> ձTAζgLUNATE EнONζgéLUNATE EнONζg>(SHOg?(S",
    "HOg> LUNATE SIGMAζpETж SANg?(SANgRHO)νζg> éLUNATE SIGMAζoØTвLUNATE SIGMAζoéØTвLUNATE SIGMAζ",
    "aCYRILLջ>(IE)мVEzOyDJEyGJEyUKRւЦIEyDZEyBYELORUSSIAN-UKRւЦIyYIyJEyLJEyNJEyTSHEyKJEyI)мVEyИ U",
    "yDZHEyAyBEyVEyGHEyDEyIEyZHEzEyIyИ IyKAyELzMzNyOyPEyERzSyTEyUyEFyHAyTSEyCHEyч!CHAyHARD^yYERU",
    "ySOFT^yEyYUzAj?(AwBEwVEwGHEwDEwIEwZHExEwIwИ IwKAwELxMxNwOwPEwERxSwTEwUwEFwHAwTSEwCHEwчyCHAw",
    "HARD^wYERUwSOFT^wEwYUxAwIE)мVExOwDJEwGJEwUKRւЦIEwDZEwBYELORUSSIAN-UKRւЦIwYIwJEwLJEwNJEwTSHE",
    "wKJEwI)мVEwИ UwDZHEj>(OMEGAj?(OMEGAj>(YATj?(YATj>(IOTIFIвEj?(IOTIFIвEj>(э YUSj?(э YUSj>(IOT",
    "IFIвэ YUSj?(IOTIFIвэ YUSj>(BIG YUSj?(BIG YUSj>(IOTIFIвBIG YUSj?(IOTIFIвBIG YUSj>(KSIj?(KSIj",
    ">(PSIj?(PSIj>(FITAj?(FITAj>(IZHITSAj?(IZHITSAj>(IZHITSA)α мVE ACCгj?(IZHITSA)α мVE ACCгj>(U",
    "Kj?(UKj>(ROUND OMEGAj?(ROUND OMEGAj>(OMEGA)TITLOj?(OMEGA)TITLOj>(OTj?(OTj>(KOPPAj?(KOPPAjTH",
    "OUSДS^bOMBINаCYRILLջTITLOtPALATALIZAбtш PNEUMATAtнI PNEUMATAuOKRYTIEtHUNDREDςS^tMILLIONS^bY",
    "RILLջ>(И I)Щj?(И I)Щj>(SEMISOFT^j?(SEMISOFT^j>(ER)TICKj?(ER)TICKj>(GHE)UPTURNj?(GHE)UPTURNj",
    ">(GHE)νj?(GHE)νj>(GHE)ξÁj?(GHE)ξÁj>(ZHE)Üj?(ZHE)Üj>(ZE)Üj?(ZE)Üj>(KA)Üj?(KA)Üj>(KA)δ νj?(KA",
    ")δ νj>(KA)νj?(KA)νj>(BЬKIR KAj?(BЬKIR KAj>(EN)Üj?(EN)Üj> LюEN GHEj? LюEN GHEj>(PE)ξÁj?(PE)ξ",
    "Áj>(ABKHASЦHAj?(ABKHASЦHAj>(ES)Üj?(ES)Üj>(TE)Üj?(TE)Üj>(Ю Uj?(Ю Uj>(Ю U)νj?(Ю U)νj>(HA)Üj?(",
    "HA)Üj> LюTE TSEj? LюTE TSEj>(CHE)Üj?(CHE)Üj>(CHE)δ νj?(CHE)δ νj>(SHHAj?(SHHAj>(ABKHASЦCHEj?",
    "(ABKHASЦCHEj>(ABKHASЦCHE)Üj?(ABKHASЦCHE)ÜjυPALOCHKAj>(ZHE)Хj?(ZHE)Хj>(KA)Áj?(KA)Áj>(EL)Щj?(",
    "EL)Щj>(EN)Áj?(EN)Áj>(EN)Щj?(EN)Щj>(KHAKASSЦCHEj?(KHAKASSЦCHEj>(EM)Щj?(EM)ЩwPALOCHKAj>(A)Хj?",
    "(A)Хj>(A)èj?(A)èj> LюA IEj? LюA IEj>(IE)Хj?(IE)Хj>(SCHWAj?(SCHWAj>(SCHWA)èj?(SCHWA)èj>(ZHE)",
    "èj?(ZHE)èj>(ZE)èj?(ZE)èj>(ABKHASЦDZEj?(ABKHASЦDZEj>(I)Új?(I)Új>(I)èj?(I)èj>(O)èj?(O)èj>(BAR",
    "RвOj?(BARRвOj>(BARRвO)èj?(BARRвO)èj>(E)èj?(E)èj>(U)Új?(U)Új>(U)èj?(U)èj>(U)α Õj?(U)α Õj>(CH",
    "E)èj?(CHE)èj>(GHE)Üj?(GHE)Üj>(YERU)èj?(YERU)èj>(GHE)ν]Áj?(GHE)ν]Áj>(HA)Áj?(HA)Áj>(HA)νj?(HA",
    ")νj>(KOMI DEj?(KOMI DEj>(KOMI DJEj?(KOMI DJEj>(KOMI ZJEj?(KOMI ZJEj>(KOMI DZJEj?(KOMI DZJEj",
    ">(KOMI LJEj?(KOMI LJEj>(KOMI NJEj?(KOMI NJEj>(KOMI SJEj?(KOMI SJEj>(KOMI TJEj?(KOMI TJEj>(é",
    "ZEj?(éZEj>(EL)Áj?(EL)Áj>(LHAj?(LHAj>(RHAj?(RHAj>(YAEj?(YAEj>(QAj?(QAj>(WEj?(WEj>(րUT KAj?(ր",
    "UT KAj>(EL)ξÁj?(EL)ξÁj>(EN)ξÁj?(EN)ξÁj>(PE)Üj?(PE)Üj>(SHHA)Üj?(SHHA)Üj>(EN)θÁj?(EN)θÁj>(DZZ",
    "HEj?(DZZHEj>(DCHEj?(DCHEj>(EL)Üj?(EL)Ü"]),
  (1329, ["aARMENЦ>(AYByBENyGIMyDAyECHyZAyEHzTyTOyZHEyINIyLIWNyXEHyCAyKENyHOyJAyGHADyCHEHyMENyYI",
    "yNOWyчyVOyCHAyPEHyJHEHyRAySEHyVEWyTIWNyREHyCOyYIWNyPIWRyKEHyOHyFEH"]),
  (1369, ["aARMENЦЗ(θÌRеjAPOSTROPHEjEMPHASISμkXCսAбμjПjQUESбμjABBREVIAбμj?(öAYBwAYBwBENwGIMwDAwE",
    "CHwZAwEHxTwTOwZHEwINIwLIWNwXEHwCAwKENwHOwJAwGHADwCHEHwMENwYIwNOWwчwVOwCHAwPEHwJHEHwRAwSEHwV",
    "EWwTIWNwREHwCOwYIWNwPIWRwKEHwOHwFEHqюECH YIWNqETж YI)νjÎjHYPHEN"]),
  (1421, ["a|-FACаARMENЦEжNITY^aÝ-FACаARMENЦEжNITY^aARMENЦDRAM^"]),
  (1425, ["aHEBREW ACCг ETNAHTAoSEGOLpHALSHELEToZAQEF QATANuGADOLoTIPEHAoREVIAoZARQAoPЬTAoYETIVo",
    "TEVIRoGERESHu MUQDAMrчYIMoQARNEY PARAoTELIч GEDOLAoPAZERoATNAH HAFUKHoMUNAHpAHAPAKHpERKHAu ",
    "KEFULAoDARGAoQADMAoTELIч QETANAoYERAH BEN YOMOoOLEoILUYoDEHIoZINORhMARK MASORA ähPOINT SHEV",
    "AnHATAF SEGOLtPATAHtQAMATSoIRIQnTSEREnSEGOLnPATAHnQAMATSnHOսs HASER FOR VAVnQUBUTSnDAGESH O",
    "R MAPIQnMETEGiUNCTUAб MAQAFiOINT RAFEiUNCTUAб PASEQiOINT SHIN ØoIN ØiUNCTUAб SOF PASUQhMARK",
    " ÅØmôØhÀ NUN HAFUKHAiOINT QAMATS QATAN"]),
  (1488, ["aHEBREW(րFoBEToGIMELoDրToHEoVAVoZAYINoHEToTEToYODoι KAFoKAFoսEDoι MEMoMEMoι NUNoNUNoS",
    "AMEKHoAYINoι PEoPEoι TSADIoTSADIoQOFoRESHoSHINoTAV"]),
  (1519, ["aHEBREW YODβhLюYIDDISH α VAVyVAV YODyα YODhÀ GERESHwчYIM"]),
  (1536, ["aф с^hÖSANAHhFOOTNOTEμERhÖSAFHAoMVAThсμ_g-INDջCUBE ROOTnñTH ROOTg RAYg-INDջզ MILLE^rե",
    "ς^bFGHANI^bRABջПhDATE ЯhPOETջОSE^hÖMISRAmSЪЪAHOU ALAYHE WASSЪAMmALAYHE ASSЪAMmRAHMATULLAH A",
    "LAYHEoDI ЪAHOU ANHUmTAKHЪUSiMЪ ыTAHsLюրF)ս)ցsZւnFATHAnDAMMAnKASRAiEMICOLONhLETжμhENDûTEXTμh",
    "ЖØ ÀμhQUESбμhυKЬMIRI ցoHAMZAoրF)MADDA_yHAMZA_oWAW)HAMZA_oրF)HAMZAγoց)HAMZA_oրFoBEHoTEH MARB",
    "UTArpHEHoЫoժoKժoDALoTHALoREHoZւoSգpHգpADoDADoTAHoZAHoւoGHւoKEHEH)ÃÄ_!þÄγoFARSI ց)ðV%ÃÄ_&þÄ_",
    "hTATWEELhυFEHoQAFoKAFoսoÒoNOONoHEHoWAWoχoցhFATHATANhDAMMATANhKASRATANhFATHAhDAMMAhKASRAhчDD",
    "AiUKUNhMADDAH_hHAMZA_nBELOWhSUBтրFhðDAMMAhMARK NOШGHUNNAhZWARAKAYhò^ ? V_sð? V_sØγhéDAMMAhF",
    "ATHA)ÃÄhWAVY HAMZAγg-INDջátÍtÃuþtñuлtГuÛtìtÞg զCг^hDECIMиЯhTHOUSДS ЯhFлբвհhυØLESS BEHwQAFoS",
    "UզтրFoրF WASLAuITH WAVY HAMZA_/BELOWoыHAMZAy րFzWAWoU)HAMZA_oыHAMZA ցoTTEHsEHoBEEHoTEH)RеxT",
    "þÄ_ τoPEHoTEHEHoBEHEHoժ)HAMZA_xÃÄ δ_oNցoDցoժ)TþÄ_oTCHEHtEHoDDALpAL)RеxØγ+]? TAHqHALpDAHALpU",
    "LpAL)TþÄ_ τxñÄ_oRREHpEH)? VxRеxØγx? VγxØγ]Ø_xÃÄ_oJEHoREH)ñÄ_oSգ)Øγ]Ø_yTþÄγ=W]TþÄ_pAD)ÃÄγyþÄ",
    "_oTAH)TþÄ_oւ)TþÄ_oØLESS FEHoFEH)Ø MOVEDγ#BELOWoVEHoFEH)TþÄγoPEHEHoQAF)Ø_xTþÄ_oKEHEHoSWЬ KAF",
    "oKAF)RеxØ_oNGoKAF)TþÄγoGAFr)RеoNGOEHoGAF)ÃÄγpUEHpAF)TþÄ_oս)? VxØ_xTþÄ_.BELOWoNOON)ØγtGHUNNA",
    "oRNOONoNOON)RеyTþÄ_oHEH DOACHЬMEEoTCHEH)Ø_oHEH)ց_sGOALw)HAMZA_oTEH MARBUTA GOALoWAW)RеoKIRG",
    "HIZ OEoOEoUoYUoKIRGHIZ YUoWAW)ÃÄ_oVEoFARSI ցoց)Щx? VoWAW)Ø_oEoց)TþÄγsBARREEy)HAMZA_hÎhυAEh?",
    " ыLюSAD)ս)χ#QAF)ս)χsÒ η@sս րFsЫsTþÄsSգhENDûAYAHhհTûRUB EL HIZBiMЪ ыROUNDвZEROsUP| RECTйФZER",
    "OsØLESS хûKժsÒ~@nВSգnыMADDAnWAWnցnыցsNOONhPLACEûSAJDAHhEMPTY CгRE ВSTOPuыSTOPhROUNDвыSTOP)F",
    "ILLвCгREh? ВÒhυDAL)ðVoREH)ðVaEXեDвф-INDջá$Í$Ã%þ$ñ%л$Г%Û$ì$Þaф(SHգ)ØγoDAD)ØγoGHւ)ØγhÖSINDHI ",
    "AMզSДtPOSTPOSIб MENhυHEH)ðVaSYRIAC ENDûPARAмPHhSUPRAоAR ÎjBоAR ÎjPRAоAR COLONjBоAR COLONhλ ",
    "COLONhCOLШSKEWвÝu|hSUPRAоAR COLШSKEWвÝjBоAR COLШSKEWв|hCONTRACбhHARKLEAN OBELUSqMETOBELUSqA",
    "SжISCUS"]),
  (1807, ["aSYRIAC ABBREVIAбμhυALAPHoSUզтALAPHoBETHoGAMALt GARSHUNIoDALATHpOTLESS DALATH RISHoHE",
    "oWAWoZւoHETHoTETHs GARSHUNIoYUDHs HEoKAPHoսADHoMIMoNUNoSEMKATHoι SEMKATHoEoPEoéPEoSADHEoQAP",
    "HoRISHoSHINoTAWoզSЦBHETHwGHAMALwDHALATHhPTժA_oBELOWoØTEDhZQAPHA_oBELOWoØTEDhRBASA_nBELOWhØT",
    "вZսA λuйULARhHBASA_nBELOWm-ESASA ØTEDhESASA_nBELOWhRWAHAhFEMIÞ ØhQUSHчYAhRUKKAKHAhÃ δÄ_zBEL",
    "OWiþÄ_sBELOWhOBLIQUE о_uBELOWhMUSIChBARREKH"]),
  (1869, ["aSYRIAC(SOGDЦZHւwKHAPHwFEaф(BEH)TþÄ λLYγxØγ]TþÄ_xTþÄ κ UPæγ=аUPæγ]ÃÄ_yWOÄγ]Ø_xð? Vγx?",
    " Voժ)ÃÄ_yþÄ κ UPæγoDAL)ÃÄ δLYγ]? TAHxð? VγoREH)νoSգ)ñÄ_oւ)ÃÄ_yþÄ κ τ_yWOÄ δLY_oFEH)ÃÄγyþÄ κ",
    " UPæγoKEHEH)Ø_zTþÄ_:κ UPæγoÒ)Ø_$BELOWoNOON)ÃÄγy? TAH&Voս)BARoREH)ÃÄ δLY_xHAMZA_oSգ)ÃÄ δLY_o",
    "ժ)? ф(TAHγ=ж TAH]ÃÄoSգ)? ф(TAH]ÃÄoREH)? ф(TAH]ÃÄoժ)? ф(TAH_oրF)EXեDвф-INDջփÃ_=-INDջփTþ_oFAR",
    "SI ց)EXեDвф-INDջփÃ_=RABIC-INDջփTþ_=RABIC-INDջփñγoWAW)EXեDвф-INDջփÃ_=INDջփTþ_oցдREE)EXեDвф-I",
    "NDջփÃ_=ф-INDջփTþ_oժ)EXեDвф-INDջփñγoSգ)EXեDвф-INDջփñ_yðVoKAF)ÃÄ_aTHAANA(HAAoчVIYANIoNOONUoRA",
    "AoBAAoLHAVIYANIoKAAFUoALIFUoVAAVUoÒUoFAAFUoDHAALUoTHAAoLAAMUoGAAFUpNAVIYANIoSգUoDAVIYANIoZA",
    "VIYANIoTAVIYANIoYAAoPAVIYANIoJAVIYANIoCHAVIYANIoTTAAoHHAAoKHAAoTHAALUoZAAoSHգUpAADHUoDAADHU",
    "oTOoZOoւUoGHւUoQAAFUoWAAVUhABAFILIiABAAFILIhIBIFILIhEEBEEFILIhUBUFILIhOOBOOFILIhEBEFILIiYBE",
    "YFILIhOBOFILIiABOAFILIhSUKUNhυNAA"]),
  (1984, ["aNKO ákÍkÃlþkñlлkГlÛkìkÞeυAlEElIlElUlOOmlDAGBASINNAlNlBAlPAlTAlJAlCHAlDAlRAmRAlSAlGBA",
    "lFAlKAlLAlNA WOLOSOlMAlNYAmAlHAlWAlYAlNYA WOLOSOlJONA JAqCHAqRAeÈИ ыTÍuВTÍuRISаTÍoАDESCENDа",
    "TÍtыTÍtВTÍtRISаTÍoNASALIZAбμoα Ø_eыTÍ APOSTROPHEeВTÍ APOSTROPHEeSYMBOL OO DENNENlGBAKURUNEN",
    "eПeEXCսAбμeLAJANYALAN"]),
  (2045, ["aNKO DANTAYALANfOROME^eTAMAN^aSAMARITAN(ALAFrBITrGAMANrDALATrIYrBAArZENrITrTITrYUTrKA",
    "AFrLABATrMIMrNUNrSеAATrINrFIrTSAADIYrQUFrRISHrчNrTAAFkMARK INr-ALAFpOCCLUSIONpDAGESHlODIFIE",
    "R(EPгHETջYUTlARK EPгHETջYUTkò^ АEvEvOОАAAvАAAvAAvOОАAvАAvAkЗ(И Akò^ И AvАUvUkЗ(Ikò^ АIvIvOv",
    "SUKUNkMARK NEQUDAA"]),
  (2096, ["aSAMARITAN À NEQUDAAwAFSAAQxNGEDwBAUwATMAAUwSHIYYAALAAkABBREVIAбμkÀ MELODջQITSAwZIQAA",
    "wQITSAwZAEFwTURUwARKAANUwSOF MЬFAATwANNAAU"]),
  (2112, ["aMДAIC(HALQApABqGqDqHpUSHENNApAZpITpATTqKSArqLqMqNqSpINpAPqSZqQqRqSHqTpDUSHENNApKADpւ",
    "iAFFRICAбμiVOCALIZAбμiGEMINAбμ"]),
  (2142, ["aMДAջÀ"]),
  (2144, ["aSYRIAC(MALAYAս NGAyJAyNYAyTTAyNNA!NAyBHAyRAyLLA!LAySSA"]),
  (2160, ["aф(րF)ATTACHвFATHA,TOP | FATHAy| ξνyθξνyATTACHвKASRA,ղ| KASRA,ROUND Ø_.IGHT ROUND Ø,θ",
    "ROUND Ø,ROUND ØγyØ_yATTACHвTOP | FATHA]Ø_y| ξν]Ø_yATTACHвղ| KASRA]Ø_,TOP | FATHA]θRеy| ξν]θ",
    "RеyATTACHвղ| KASRA]θRе,| HAMZA,θHAMZAhTATWEEL)OОSTRUCK HAMZA*WAWuÃÄγhυTHIN ցhBASEо ROUND Øh",
    "RAISвROUND ØhυNOON)ð? Voժ)ð? VγoTAH)ØγxTþÄγoKEHEH)ÃÄ δLYγhδ Щ"]),
  (2192, ["aф POUNDμ_iIASTREμ_"]),
  (2200, ["aф ? ыWORD AL-JUZnВWORD ISHMAAMxMAALAwTЬEELhMADDA WAAJIBhSUզтրF MOKHASSAShαD MADDAhÌM",
    "ADDAüMADDAhυBEH)? VγxHAMZA_oЫ)ÃÄ_oTAH)ÃÄ_oFEH)Øγ]TþÄ_oQAF)Øγoս)αдoÒ)TþÄ_oց)ÃÄγ]HAMZA_=ND Ø_",
    "oREH)LOOPoWAW)Ø WITHINoROHеYA ցoВրFoDAL)TþÄγoSAD)TþÄγoGAF)ðνoЮ WAWoZւ)ðV_oւ)TþÄγoKAF)ØγoQAF",
    ")Øγ]NOÄ_oBEH)? Ò_oPEH)? Ò_oTEH)? TEH_oREH)? NOON_oց)ÃÄγ]? NOON_oAFRICAN FEHwQAFwNOONoPEH)? ",
    "VoTEH)? VpTEH)? VpCHEH)? VoKEHEH)? VoGHւ)TþÄ_oAFRICAN QAF)TþÄ_oЫ)TþÄ_/BELOWoս)? ф(TAH_oмFh?",
    " FARSI ցnыFARSI ցsցдREE)ÃÄγsWORD SAHsZAHhщ ROUND Ø_xBELOWhSUKUNγhщ äγnROUND Ø INկ äγh? ВWAW",
    "nыWORD AR-RUBsSADsւsQAFsNOON)KASRAnВNOON)KASRAnыWORD ATH-THALATHAyS-SAJDAyN-NISFxSAKTAxQIFx",
    "WAQFAsFOOTNOTEμERsÖSAFHAhDISPUTвENDûAYAHhöDAMMAγhCURLY FATHAnDAMMAnKASRAnFATHATANnDAMMATANn",
    "KASRATANhTÍ Í Ø_mÃÄ_mLOOP_mÍ ØγmÃÄγmLOOPγhЕFATHATANmDAMMATANmKASRATANh? ыWAWhFATHA)RеsØ_hKA",
    "SRA)ØγhÝ[х_h|[х_hÝ[хγh|[хγhα |[х_/)Øh|[х_)ØhDAMMA)ØhMARK կWAYS NOШGHUNNAaDEVANAGARI^ ðцqцqÓ",
    "qКlυИ AsAtAsItIsUtUsÂR!LsCДRA EsИ EsEsAIsCДRA OsИ OsOsAUsKAtHAsGAtHAsNGAsCAtHAsJAtHAsNYAsTT",
    "AuHAsDDAuHAsNNAsTAtHAsDAtHAsNAtNNAsPAtHAsBAtHAsMAsYAsRAtRAsLAtLAuLAsVAsчtSAtAsHAlò^ OExOElÖ",
    "NUKTAqAVAмHAlò^ AAwIxIwUxUwÂR*RwCДRA EwИ EwEwAIwCДRA OwИ OwOwAUlÖռlò^ PRISHTHAMATRA EwAWlOM",
    "lSTRESS^ UDATTAxANUDATTAlмVE ACCгlÕ ACCгlò^ CДRA АEwUExUElυQAsKHHAsGHHAsZAsDDDHAsRHAsFAsYYA",
    "sÂRR!LLlò^ ÂL*LlDДAmOUBLE DДAmIGIT ZEROrÍrÃsþrñsлrГsÛrìrÞlABBREVIAб^lÖыSPACаØlυCДRA AsOEtOE",
    "sAWsUEtUEsMARWARI DDAsZHAsç YAsGGAsJJAsGLOTTиSTOPsDDDAsBBAaBENGALI ANJIiÖцnÓnК"]),
  (2437, ["aBENGALI(AqApIqIpUqUpÂRxL"]),
  (2447, ["aBENGALI(EpAI"]),
  (2451, ["aBENGALI(OpAUpKAqHApGAqHApNGApCAqHApJAqHApNYApTTArHApDDArHApNNApTAqHApDAqHApNA"]),
  (2474, ["aBENGALI(PAqHApBAqHApMApYApRA"]),
  (2482, ["aBENGALI(LA"]),
  (2486, ["aBENGALI(чqSAqApHA"]),
  (2492, ["aBENGALI^ NUKTAnAVAмHAiò^ AAtIuItUuUtÂR$R"]),
  (2503, ["aBENGALI ò^ EtAI"]),
  (2507, ["aBENGALI ò^ OtAUiÖռiυKHДA TA"]),
  (2519, ["aBENGALI AU LENGTHμ"]),
  (2524, ["aBENGALI(RRAqHA"]),
  (2527, ["aBENGALI(YYApÂRRxLLiò^ ÂL$L"]),
  (2534, ["aBENGALI áoÍoÃpþoñpлoГpÛoìoÞiυRA)ξРALxôРALiRUPEEμoSIGNiCURRENCY NUMERATOR Í#Ã$þ#ñ#Í L",
    "ESS THAN ձ DENOMINATORrDENOMINATOR ГTգiISчRiGДAμiυVEDջÓiABBREVIAб^iSДHIμ"]),
  (2561, ["aGURMUKHI^ ADAK BINDIoBINDIoК"]),
  (2565, ["aGURMUKHI(ArAqIrIqUrU"]),
  (2575, ["aGURMUKHI(EEqAI"]),
  (2579, ["aGURMUKHI(OOqAUqKArHAqGArHAqNGAqCArHAqJArHAqNYAqTTAsHAqDDAsHAqNNAqTArHAqDArHAqNA"]),
  (2602, ["aGURMUKHI(PArHAqBArHAqMAqYAqRA"]),
  (2610, ["aGURMUKHI(LArLA"]),
  (2613, ["aGURMUKHI(VAqч"]),
  (2616, ["aGURMUKHI(SAqHA"]),
  (2620, ["aGURMUKHI^ NUKTA"]),
  (2622, ["aGURMUKHI ò^ AAuIvIuUvU"]),
  (2631, ["aGURMUKHI ò^ EEuAI"]),
  (2635, ["aGURMUKHI ò^ OOuAUjÖռ"]),
  (2641, ["aGURMUKHI^ UDAAT"]),
  (2649, ["aGURMUKHI(KHHAqGHHAqZAqRRA"]),
  (2654, ["aGURMUKHI(FA"]),
  (2662, ["aGURMUKHI ápÍpÃqþpñqлpГqÛpìpÞjTIPPIjADDAKjIRIjURAjEK ONKARjÖYAKЬjABBREVIAб^"]),
  (2689, ["aGUJARATI^ цoÓoК"]),
  (2693, ["aGUJARATI(ArAqIrIqUrUqÂRyLjò CДRA E"]),
  (2703, ["aGUJARATI(EqAIjò CДRA O"]),
  (2707, ["aGUJARATI(OqAUqKArHAqGArHAqNGAqCArHAqJArHAqNYAqTTAsHAqDDAsHAqNNAqTArHAqDArHAqNA"]),
  (2730, ["aGUJARATI(PArHAqBArHAqMAqYAqRA"]),
  (2738, ["aGUJARATI(LArLA"]),
  (2741, ["aGUJARATI(VAqчrSArAqHA"]),
  (2748, ["aGUJARATI^ NUKTAoAVAмHAjò^ AAuIvIuUvUuÂR%RuCДRA E"]),
  (2759, ["aGUJARATI ò^ EuAIuCДRA O"]),
  (2763, ["aGUJARATI ò^ OuAUjÖռ"]),
  (2768, ["aGUJARATI OM"]),
  (2784, ["aGUJARATI(ÂRRyLLjò^ ÂL%L"]),
  (2790, ["aGUJARATI ápÍpÃqþpñqлpГqÛpìpÞjABBREVIAб^jRUPEE^"]),
  (2809, ["aGUJARATI(ZHAjÖSUKUNpHADDAoMADDAHoTþ-Ø NUKTA_oä NUKTA_oÃ-ä NUKTA_"]),
  (2817, ["aORIYA^ цlÓlК"]),
  (2821, ["aORIYA(AoAnIoInUoUnÂRvL"]),
  (2831, ["aORIYA(EnAI"]),
  (2835, ["aORIYA(OnAUnKAoHAnGAoHAnNGAnCAoHAnJAoHAnNYAnTTApHAnDDApHAnNNAnTAoHAnDAoHAnNA"]),
  (2858, ["aORIYA(PAoHAnBAoHAnMAnYAnRA"]),
  (2866, ["aORIYA(LAoLA"]),
  (2869, ["aORIYA(VAnчoSAoAnHA"]),
  (2876, ["aORIYA^ NUKTAlAVAмHAgò^ AArIsIrUsUrÂR!R"]),
  (2887, ["aORIYA ò^ ErAI"]),
  (2891, ["aORIYA ò^ OrAUgÖռ"]),
  (2901, ["aORIYA^ OОоgAI LENGTHμhU LENGTHμ"]),
  (2908, ["aORIYA(RRAoHA"]),
  (2911, ["aORIYA(YYAnÂRRvLLgò^ ÂL!L"]),
  (2918, ["aORIYA ámÍmÃnþmñnлmГnÛmìmÞgISчRgυWAgFRACб Í QUARжtHALFpTþ QUARжSpÍ ГTEгHtìHpTþ ГTEгHS"]),
  (2946, ["aTAMIL^ ÓlК"]),
  (2949, ["aTAMIL(AoAnIoInUoU"]),
  (2958, ["aTAMIL(EoEnAI"]),
  (2962, ["aTAMIL(OoOnAUnKA"]),
  (2969, ["aTAMIL(NGAnCA"]),
  (2972, ["aTAMIL(JA"]),
  (2974, ["aTAMIL(NYAnTTA"]),
  (2979, ["aTAMIL(NNAnTA"]),
  (2984, ["aTAMIL(NAoNNAnPA"]),
  (2990, ["aTAMIL(MAnYAnRAoRAnLAoLApLAnVAnчoSAoAnHA"]),
  (3006, ["aTAMIL ò^ AArIsIrUsU"]),
  (3014, ["aTAMIL ò^ EsErAI"]),
  (3018, ["aTAMIL ò^ OsOrAUgÖռ"]),
  (3024, ["aTAMIL OM"]),
  (3031, ["aTAMIL AU LENGTHμ"]),
  (3046, ["aTAMIL ámÍmÃnþmñnлmГnÛmìmÞgс եnÍοrTHOUSДgDAY^gMONTH^gYEAR^gDEBIT^gCREDIT^gAS_^gRUPEE^",
    "gс^"]),
  (3072, ["aTELUGU^ Èц_nДRABINDUmÓmКmÈÓ_hυApAoIpIoUpUoÂRwL"]),
  (3086, ["aTELUGU(EpEoAI"]),
  (3090, ["aTELUGU(OpOoAUoKApHAoGApHAoNGAoCApHAoJApHAoNYAoTTAqHAoDDAqHAoNNAoTApHAoDApHAoNA"]),
  (3114, ["aTELUGU(PApHAoBApHAoMAoYAoRApRAoLApLAqLAoVAoчpSApAoHA"]),
  (3132, ["aTELUGU^ NUKTAmAVAмHAhò^ AAsItIsUtUsÂR#R"]),
  (3142, ["aTELUGU ò^ EtEsAI"]),
  (3146, ["aTELUGU ò^ OtOsAUhÖռ"]),
  (3157, ["aTELUGU LENGTHμhAI LENGTHμ"]),
  (3160, ["aTELUGU(TSAoDZAoRRRA"]),
  (3165, ["aTELUGU(NAKAARA POLLU"]),
  (3168, ["aTELUGU(ÂRRwLLhò^ ÂL#L"]),
  (3174, ["aTELUGU ánÍnÃoþnñoлnГoÛnìnÞ"]),
  (3191, ["aTELUGU^ SIDDHAMhFRACб á FOR ODD POWERSûñwÍ FOR ODD POWERSûñwÃ FOR ODD POWERSûñxþ FOR",
    " ODD POWERSûñwÍ FOR Û POWERSûñwÃ FOR Û POWERSûñxþ FOR Û POWERSûñhÖTUUMUaKANNADA^ SPACацnцnÓ",
    "nКnSIDDHAMiυAqApIqIpUqUpÂRxL"]),
  (3214, ["aKANNADA(EqEpAI"]),
  (3218, ["aKANNADA(OqOpAUpKAqHApGAqHApNGApCAqHApJAqHApNYApTTArHApDDArHApNNApTAqHApDAqHApNA"]),
  (3242, ["aKANNADA(PAqHApBAqHApMApYApRAqRApLAqLA"]),
  (3253, ["aKANNADA(VApчqSAqApHA"]),
  (3260, ["aKANNADA^ NUKTAnAVAмHAiò^ AAtIuItUuUtÂR$R"]),
  (3270, ["aKANNADA ò^ EuEtAI"]),
  (3274, ["aKANNADA ò^ OuOtAUiÖռ"]),
  (3285, ["aKANNADA LENGTHμiAI LENGTHμ"]),
  (3293, ["aKANNADA(NAKAARA POLLUpFA"]),
  (3296, ["aKANNADA(ÂRRxLLiò^ ÂL$L"]),
  (3302, ["aKANNADA áoÍoÃpþoñpлoГpÛoìoÞ"]),
  (3313, ["aKANNADA^ JIHVAMULIYAnUPADHMANIYA"]),
  (3328, ["aMALAYAս^ ÈÓ_qДRABINDUpÓpКkυVEDջÓrAsArIsIrUsUrÂRzL"]),
  (3342, ["aMALAYAս(EsErAI"]),
  (3346, ["aMALAYAս(OsOrAUrKAsHArGAsHArNGArCAsHArJAsHArNYArTTAtHArDDAtHArNNArTAsHArDAsHArNAsNNAr",
    "PAsHArBAsHArMArYArRAsRArLAsLAtLArVArчsSAsArHArTTTAkÖδд ռpCIRCФռpAVAмHAkò^ AAvIwIvUwUvÂR&R"]),
  (3398, ["aMALAYAս ò^ EwEvAI"]),
  (3402, ["aMALAYAս ò^ OwOvAUkÖռkυØ REPHkÖPARA"]),
  (3412, ["aMALAYAս(CHILLU MyYyLLLkAU LENGTHμkFRACб Í Í-HUNDRED-Д-ГTIETHxFORTIETHtTþ ìIETHStÍ TW",
    "гIETHyгHtTþ TWгIETHStÍ FIFTHkυլC IIrÂRRzLLkò^ ÂL&L"]),
  (3430, ["aMALAYAս áqÍqÃrþqñrлqГrÛqìqÞkс եrÍοvTHOUSДkFRACб Í QUARжxHALFtTþ QUARжStÍ ГTEгHxìHtTþ",
    " ГTEгHSkDATEμkυCHILLU NNzyRRyLzLyK"]),
  (3457, ["aSINHALA^ цnÓYAnКYA"]),
  (3461, ["aSINHALA(AНqAНqEНrEНpIНqIНpUНqUНpIRUНsUНqLUНsUНpEНqEНpAIНpOНqOНpAUН"]),
  (3482, ["aSINHALA(ALPAPRAANA KAНpMAHAAPRAANA KAНpALPAPRAANA GAНpMAHAAPRAANA GAНpKANTAJA NAASIK",
    "YAYApSANYAKA GAНpALPAPRAANA CAНpMAHAAPRAANA CAНpALPAPRAANA JAНpMAHAAPRAANA JAНpTAALUJA NAAS",
    "IKYAYAxSANYOOGA NAAKSIKYAYApSANYAKA JAНpALPAPRAANA TTAНpMAHAAPRAANA TTAНpALPAPRAANA DDAНpMA",
    "HAAPRAANA DDAНqUURDHAJA NAНpSANYAKA DDAНpALPAPRAANA TAНpMAHAAPRAANA TAНpALPAPRAANA DAНpMAHA",
    "APRAANA DAНpDANTAJA NAН"]),
  (3507, ["aSINHALA(SANYAKA DAНpALPAPRAANA PAНpMAHAAPRAANA PAНpALPAPRAANA BAНpMAHAAPRAANA BAНrНp",
    "AMBA BAНpYAНpRAН"]),
  (3517, ["aSINHALA(DANTAJA LAН"]),
  (3520, ["aSINHALA(VAНpTAALUJA SAНpMUURDHAJA SAНpDANTAJA SAНpHAНpMUURDHAJA LAНpFAН"]),
  (3530, ["aSINHALA^ AL-LAKUNA"]),
  (3535, ["aSINHALA ò^ AELA-PILLAtKETTI AEDA-PILLAtDIGA AEDA-PILLAtKETTI IS-PILLAtDIGA IS-PILLAt",
    "KETTI PAA-PILLA"]),
  (3542, ["aSINHALA ò^ DIGA PAA-PILLA"]),
  (3544, ["aSINHALA ò^ GAETTA-PILLAtKOMBUVAtDIGA KOMBUVAtKOMBU DEKAyVA HAA AELA-PILLA*DIGA AELA-",
    "PILLA*GAYANUKITTAtGAYANUKITTA"]),
  (3558, ["aSINHALA LITH átÍtÃuþtñuлtГuÛtìtÞ"]),
  (3570, ["aSINHALA ò^ DIGA GAETTA-PILLA!YANUKITTAiÀ KUNDDALIYA"]),
  (3585, ["aTHAI CHARACж KO KAIqHO KHAIvUATvWAIvONtRAKHйpNGO NGUpCHO CHANvеvйpSO SOpCHO CHOEpYO ",
    "YеpDO CHADApTO PATAKqHO THANtNйMONTHOtPHUTHAOpNO NENpDO DEKpTO TAOqHO THUNGvAHANvONGpNO NUp",
    "BO BAIMAIpPO PLAqHO PHUNGpFO FApPHO PHANpFO FANpPHO SAMPHAOpMO MApYO YAKpRO RUAqUpLO LеqUpW",
    "O WAENpSO SALAsRUSIsSUApHO HIPpLO CHULApO йpHO NOKHUKpPAIYANNOIpSARA ApMAI HAN-AKATpSARA AA",
    "vMuIvIuUEwEvvUpPHINTHU"]),
  (3647, ["aTHAI CURRENCYζ BAHTgHARACж SARA EuAEuOuAI MAIMUAN#ALAIpLAKKHйYAOpMAIYAMOKsTAIKHUs EK",
    "tTHOuRItCHATTAWApTHANTHAKHATpNIKժITpYAMAKKANpFONGMANfálÍlÃmþlñmлlГmÛlìlÞfCHARACж йKHANKHUpK",
    "HOMUT"]),
  (3713, ["aLAO(KOmHO SUNG"]),
  (3716, ["aLAO(KHO TAM"]),
  (3718, ["aLAO(PALI GHAlNGOlCOlPALI CHAlSO TAM"]),
  (3724, ["aLAO(PALI JHAlNYOlPALI NYAqTTAsHAqDDAsHAqNNAlDOlTOmHO SUNGpTAMlPALI DHAlNOlBOlPOmHO S",
    "UNGlFO TAMlPHO TAMlFO SUNGlPALI BHAlMOlYOlLO Lе"]),
  (3749, ["aLAO(LO LOOT"]),
  (3751, ["aLAO(WOlSANSKRIT чvSAmO SUNGlHO SUNGlPALI LLAlOlHO TAMeELLIPSISeò^ ApMAI KANpAAqMpIqI",
    "pYqYpUqUeÖPALI ռeò^ MAI KONeSEMIò^ LOtNYO"]),
  (3776, ["aLAO ò^ EqIpOpAYqI"]),
  (3782, ["aLAO KO LA"]),
  (3784, ["aLAO TÍ MAI EKnTHOoInCATAWAeCANCELLAбμeNIGGAHITA"]),
  (3792, ["aLAO ákÍkÃlþkñlлkГlÛkìkÞ"]),
  (3804, ["aLAO HO NOhMOeυKHMU GOqNYO"]),
  (3840, ["aTIBETAN չOMiMARK Gж YIG MGO TRUNCATвA!-UM RNAM BCAD MA&Gж TSHEG MAnη YIG MGO MDUN MA",
    "nCLOSаYIG MGO SGAB MAoARET YIG MGO PHUR чD MAnYIG MGO TSHEG чD MAnSBRUL чDnBSKUR YIG MGOoKA",
    "- SHOG YIG MGOnINжSYLLABջTSHEGnDELIMIж TSHEG BհnчDnNYIS чDnTSHEG чDnNYIS TSHEG чDnRIN CHEN ",
    "SPUNGS чDoGYA мM чDnCARET -DZUD RTAGS ME АCANnGж TSHEGiLOGOTYPE^ CHAD RTAGSwLHAG RTAGSiASTR",
    "OLOGICAL^ Sм GCAN -CHAR RTAGS!-KHYUD PA!SDONG TSHUGSiÖRDEL DKAR GCIGyNYISySUMsNAG GCIGxNYIS",
    "sDKAR RDEL NAGiáoÍoÃpþoñpлoГpÛoìoÞoÌÍtÃuþtñuлtГuÛtìtÞtZEROiMARK BSDUS RTAGSnNGAS BZUNG NYI ",
    "ZLAnCARET -DZUD RTAGS BZHI MIG CANnNGAS BZUNG SGOR RTAGSnCHE MGOnTSA -PHRUnGUG RTAGS GYONzA",
    "Snй KHй GYONzASiÖYAR TSHESnMAR TSHESiυKAqHApGAqHApNGApCAqHApJA"]),
  (3913, ["aTIBETAN(NYApTTArHApDDArHApNNApTAqHApDAqHApNApPAqHApBAqHApMApTSArHApDZArHApWApZHAqAp-",
    "ApYApRApLApчqSAqApHApApKSSApFIXED-FORM RApKKApRRA"]),
  (3953, ["aTIBETAN ò^ AAtIuItUuUtÂR$R#L$LtEuEtOuOiÖRJES SU NGA ROoNAM BCADiò^ éI%IiÖNYI ZLA NAA",
    " DAnSNA LDANiMARK HALANTAnPALUTAiÖLCI RTAGSnYй RTAGSnLCE TSA CANnMCHU CANnGRU CAN RGYеSrMвR",
    "GYеSnðMCHU CANjUBJOINED^ LCE TSA CANxMCHU CANxðMCHU CANsυKA!HAzGA!HAzNGAzCA!HAzJA"]),
  (3993, ["aTIBETAN SUBJOINED(NYAzTTA#HAzDDA#HAzNNAzTA!HAzDA!HAzNAzPA!HAzBA!HAzMAzTSA#HAzDZA#HAz",
    "WAzZHA!Az-AzYAzRAzLAzч!SA!AzHAzAzKSSAzFIXED-FORM WA:YA:RA"]),
  (4030, ["aTIBETAN KU RU KHAr BZHI MIG CANiCANTILLAб^ ç BEAT!É BEAT!Cй TE-U!SBUB -CHALiSYMBOL D",
    "RIL BUpRDO RJEpPADMA GDANpRDO RJE RGYA мMpPHUR PApNOR BUv NYIS -KHYILwGSUM -KHYILwBZHI -KHY",
    "IL"]),
  (4046, ["aTIBETAN^ RDEL NAG RDEL DKARwGSUMiMARK BSKA- SHOG GI MGO RGYANnMNYAM YIG GI MGO RGYAN",
    "nNYIS TSHEGnη BRDA RNYаYIG MGO MDUN MAnCLOSаBRDA RNYаYIG MGO SGAB MAa|-FACаSVASTI^aÝ-FACаSV",
    "ASTI^a|-FACаSVASTI^)ØSaÝ-FACаSVASTI^)ØSaTIBETANμ LEADаMCHAN RTAGSnTRAILаMCHAN RTAGS"]),
  (4096, ["aMYANMAR(KAqHApGAqHApNGApCAqHApJAqHApNYAqNYApTTArHApDDArHApNNApTAqHApDAqHApNApPAqHApB",
    "AqHApMApYApRApLApWApSApHApLLApApчN ApIqIpUqUpEpMШEpOpAUiò^ TЪ AAtAAtIuItUuUtEtAItMШIIxOtE_i",
    "ÖÓnØγnКpRAMAnASATiդ^ ÿ YA&RA&WA&HAiυGREAT SAiáoÍoÃpþoñpлoГpÛoìoÞiÖэ SECбnSECбjYMBOL LOCATлp",
    "COMPLETEDpAFOREMгIÍDpGENITлiυчqSApÂRyRxLyLiò^ ÂR$R#L$LiυMШNGAtJHAtBBAvEiդ^ MШÿ NA.MA.LAiυSG",
    "AW KAREN чiò^ SGAW KAREN EUiTÍμ SGAW KAREN HATHI%KE PHOiυWESжN PWO KAREN THA,PWAiò^ WESжN P",
    "WO KAREN EU;UEiÖWESжN PWO KAREN TÍ-1:2:3:4:5iυEASжN PWO KAREN NNA,YWA,GHWAiò^ GEBA KAREN It",
    "KAYAH OEzUzEEiυчN KAvHAuGAuCAuZAuNYAuDAuNAuPHAuFAuBAuTHAuHAiդ^ чN ÿ WAiò^ чN AAyEz_yι YiÖчN",
    " TÍ-2x3x5x6sCOUNCIL TÍ-2*3!EMPHATջTÍiυRUMAI PALAUNG FAiÖRUMAI PALAUNG TÍ-5jHAN átÍtÃuþtñuлt",
    "ГuÛtìtÞjIGN KHAMTI TÍ-1z3iò^ AITШA!IiSYMBOL чN ÍuEXCսAбaGEORGЦ>(ANyBANyGANyDONyENyVINyZENyT",
    "ANyINyKANyLASyMANyNARyONyPARyZHARyRAEySANyTARyUNyPHARyKHARyGHANyQARySHINyCHINzANyJILyCILzHA",
    "RyXANyJHANyHAEzEzIEyWEyHARzOE"]),
  (4295, ["aGEORGЦ>(YN"]),
  (4301, ["aGEORGЦ>(AEN"]),
  (4304, ["aGEORGIAN(ANqBANqGANqDONqENqVINqZENqTANqINqKANqLASqMANqNARqONqPARqZHARqRAEqSANqTARqUN",
    "qPHARqKHARqGHANqQARqSHINqCHINrANqJILqCILrHARqXANqJHANqHAErErIEqWEqHARrOEqFIqYNqELIFIqöGANqւ",
    "jPARAмPH ЯaЗ(GEORGЦNARaGEORGIAN(AENqHARD^qLABIAL^aHйUL CHOSEONG МqSSйМqNзNqըqSSйըqRзLqMзMqP",
    "зPqSSйPзPrIOSrSйիqзNGqCзCqSSйCзCqCHзCHqKHзKHqTHзTHqPHзPHqHзHqNзN-МqSSйNзNqNзN-ըwPзPqը-МqRзL",
    "-NзNqSSйRзLqRзL-HзHqKAPYEOUNRзLqMзM-PзPqKAPYEOUNMзMqPзP-МwNзNwըwի!-М#ը#PзPxSйիxIOS-CзCwCзCx",
    "HзCHwTHзTHwPHзPHqKAPYEOUNPзPySSйPзPqի-МvNзNvըvRзLvMзMvPзP!-МvSSйիvзNGvCзCwHзCHvKHзKHvTHзTHv",
    "PHзPHvHзHqCHITUEUMիzSйիrEONGCHзMի$SйիqPANիqзNG-МwըwMзMwPзPwիwPANիqSSйзNGqзNG-CзCxHзCHwTHзTH",
    "wPHзPHqYESзNGqCзC-зNGrHITUEUMCзCySSйCзCrEONGCHзMCзC#SSйCзCrHзCH-KHзKHyHзHtTUEUMCHзCHrEONGCH",
    "зMCHзCHqPHзPH-PзPqKAPYEOUNPHзPHqSSйHзHqYEORINHзHqМ-ըqNзN-իwCзCwHзHqը-RзLqFILLERhJUNGSEONG F",
    "ILLERrAsErYAtErEOsrYEOtrOrWAtErOErYOrUrWEOtsIrYUrEUrYIrIrA-OtUrYA-OuYOrEO-OuUuEUrYEO-OvUrO-",
    "EOutYEtOtUrYO-YAwEvEOuOuIrU-AuEtEO-EUtYEtUrYU-AuEOvuYEOwuUuIrEU-UuEUrYI-UrI-AtYAtOtUtEUtARA",
    "EArARAEAw-EOxUxIrSSйARAEArA-EUrYA-UsEO-YArO-YAvEiONGSEONG МrSSйМrМ-իrNзNw-CзCxHзHrըrRзLw-Мx",
    "MзMxPзPxիxTHзTHxPHзPHxHзHrMзMrPзPw-իrիsSйիrзNGrCзCsHзCHrKHзKHrTHзTHrPHзPHrHзHrМ-RзLyի-МrNзN",
    "-МxըxիxPANիxTHзTHrը-МyRзLrRзL-М-իxNзNxը%-HзHrSSйRзLrRзL-MзM-М%իxPзP-ի%HзHxKAPYEOUNPзPxSSйիx",
    "PANիxKHзKHxYEORINHзHrMзM-МxRзLxPзPxիySйիxPANիxCHзCHxHзHrKAPYEOUNMзMrPзP-RзLxPHзPHxHзHrKAPYE",
    "OUNPзPrի-МwըwRзLwPзPrPANիrзNG-МxSSйМrSSйзNGrзNG-KHзKHrYESзNGz-ի!PANիrPHзPH-PзPrKAPYEOUNPHзP",
    "HrHзH-NзNxRзLxMзMxPзPrYEORINHзHrМ-NзNyPзPyCHзCHyKHзKHyHзHrSSйNзNaåHAtUtItAAtEEutOuAsLAtUtIt",
    "AAtEEutOtWAsHHAuUuIuAAuEEvuOuWAsMAtUtItAAtEEutOtWAsSZAuUuIuAAuEEvuOuWAsRAtUtItAAtEEutOtWAsS",
    "AtUtItAAtEEutOtWAtHAuUuIuAAuEEvuOuWAsQAtUtItAAtEEutOuAtWA"]),
  (4682, ["aåQWIuAAuEEv"]),
  (4688, ["aåQHAuUuIuAAuEEvuO"]),
  (4696, ["aåQHWA"]),
  (4698, ["aåQHWIvAAvEEw"]),
  (4704, ["aåBAtUtItAAtEEutOtWAsVAtUtItAAtEEutOtWAsTAtUtItAAtEEutOtWAsCAtUtItAAtEEutOtWAsXAtUtIt",
    "AAtEEutOuAtWA"]),
  (4746, ["aåXWIuAAuEEv"]),
  (4752, ["aåNAtUtItAAtEEutOtWAtYAuUuIuAAuEEvuOuWAsGLOTTиA!U!I!AA!EE#!O!WAsKAtUtItAAtEEutOuAtWA"]),
  (4786, ["aåKWIuAAuEEv"]),
  (4792, ["aåKXAuUuIuAAuEEvuO"]),
  (4800, ["aåKXWA"]),
  (4802, ["aåKXWIvAAvEEw"]),
  (4808, ["aåWAtUtItAAtEEutOuAsPHARYNGEиA%U%I%AA%EE&%O"]),
  (4824, ["aåZAtUtItAAtEEutOtWAtHAuUuIuAAuEEvuOuWAsYAtUtItAAtEEutOuAsDAtUtItAAtEEutOtWAtDAuUuIuA",
    "AuEEvuOuWAsJAtUtItAAtEEutOtWAsGAtUtItAAtEEutOuAtWA"]),
  (4882, ["aåGWIuAAuEEv"]),
  (4888, ["aåGGAuUuIuAAuEEvuOuWAAsTHAuUuIuAAuEEvuOuWAsCHAuUuIuAAuEEvuOuWAsPHAuUuIuAAuEEvuOuWAsTS",
    "AuUuIuAAuEEvuOuWAtZAuUuIuAAuEEvuOvAsFAtUtItAAtEEutOtWAsPAtUtItAAtEEutOtWAsRYAsMYAsFYA"]),
  (4957, ["aETHIOPջÈGEMINAб]ò LENGTHμtò LENGTHμtGEMINAбμjSECбμjWORDSPACEjÎjПjSEMICOLONjCOLONjPRE",
    "FACE COLONjQUESбμjPARAмPH ЯjփÍpÃqþpñqлpГqÛpìpÞjс եrWгYrօqFORTYrIFTYqГTYrÛTYqìYqÞTYqHUNDREDq",
    "եς"]),
  (4992, ["aåSEBATBEIT MWAsMWIuEEvsSEBATBEIT BWAsBWIuEEvsSEBATBEIT FWAsFWIuEEvsSEBATBEIT PWAsPWI",
    "uEEvjTONALμ YIZETuDERETuRIKRIKuИ RIKRIKuDIFATuKENATuCHIRETuHIDETuDERET-HIDETuKURT"]),
  (5024, ["aCHEROKEE(AqEqIqOqUqVqGAqKAqGErIrOrUrVqHArErIrOrUrVqLArErIrOrUrVqMArErIrOrUqNAqHNAqNA",
    "HrErIrOrUrVqQUAsEsIsOsUsVqSArrErIrOrUrVqDAqTAqDEqTEqDIqTIqDOrUrVrLAqTLAsEsIsOsUsVrSAsEsIsOs",
    "UsVqWArErIrOrUrVqYArErIrOrUrVqMV"]),
  (5112, ["aCHEROKEE ?(YExIxOxUxVwMV"]),
  (5120, ["aCANADЦSYLLABICS HYPHENtEtAAItIuItOuOtY-CREE OOtCARRIER EE#ItAuAtWEvST-CREE WEuIuEST-",
    "CREE WIuIIuEST-CREE WIIuOuEST-CREE WOuOOuEST-CREE WOOtNASKAPI WOOtWAuEST-CREE WAuAAuEST-CRE",
    "E WAAtNASKAPI WAAtAItY-CREE WtGLOTTиSTOPtι ÕzмVEzղÌRеzTOP ÌRеz| ÌRе#NGzα Õ+И δ νSzξØzИ λ νz",
    "PLUSzÐ TACKtENtINtONtANtPEuAAIuIvIuOvOtY-CREE POOtCARRIER HEE$ItPAvAuWEtàPWEtPWItàPWItPWIIt",
    "àPWIItPWOtàPWOtPWOOtàPWOOtPWAtàPWAtPWAAtàPWAAtY-CREE PWAAtPtàPtCARRIER HtTEuAAIuIvIuOvOtY-C",
    "REE TOOtCARRIER DEE$ItTAvAuWEtàTWEtTWItàTWItTWIItàTWIItÃtàÃtÃOtàÃOtTWAtàTWAtTWAAtàTWAAtNASK",
    "API TWAAtTuTEvIvOvAtKEuAAIuIvIuOvOtY-CREE KOOtKAvAuWEtàKWEtKWItàKWItKWIItàKWIItKWOtàKWOtKWO",
    "OtàKWOOtKWAtàKWAtKWAAtàKWAAtNASKAPI KWAAtKuWtSOUTH-SLAVEY KEH,IH,OH,AHtCEuAAIuIvIuOvOtY-CRE",
    "E COOtCAvAuWEtàCWEtCWItàCWItCWIItàCWIItCWOtàCWOtCWOOtàCWOOtCWAtàCWAtCWAAtàCWAAtNASKAPI CWAA",
    "tCtSAYISI THtMEuAAIuIvIuOvOtY-CREE MOOtMAvAuWEtàMWEtMWItàMWItMWIItàMWIItMWOtàMWOtMWOOtàMWOO",
    "tMWAtàMWAtMWAAtàMWAAtNASKAPI MWAAtMtàMtMHtATHAPASCAN MtSAYISI MtNEuAAIuIvIuOvOtY-CREE NOOtN",
    "AvAuWEtàNWEtNWAtàNWAtNWAAtàNWAAtNASKAPI NWAAutCARRIER NGtNHtLEuAAIuIvIuOvOtY-CREE LOOtLAvAu",
    "WEtàLWEtLWItàLWItLWIItàLWIItLWOtàLWOtLWOOtàLWOOtLWAtàLWAtLWAAtàLWAAtLtàLtÿ LtSEuAAIuIvIuOvO",
    "tY-CREE SOOtSAvAuWEtàSWEtSWItàSWItSWIItàSWIItSWOtàSWOtSWOOtàSWOOtSWAtàSWAtSWAAtàSWAAtNASKAP",
    "I SWAAtStATHAPASCAN StSWtρFOOT StMOOSE-CREE SKtNASKAPI SKW$-W$PWA$TWA$KWA$CWAtSHEvIwIvOwOvA",
    "wAvWEtàSHWEtSHWItàSHWItSHWIItàSHWIItSHWOtàSHWOtSHWOOtàSHWOOtSHWAtàSHWAtSHWAAtàSHWAAtSHtYEuA",
    "AIuIvIuOvOu-CREE YOOuAvAuWEtàYWEtYWItàYWItYWIItàYWIItYWOtàYWOtYWOOtàYWOOtYWAtàYWAtYWAAtàYWA",
    "AtNASKAPI YWAAtYtBIBLE-CREE YtàYtSAYISI YItREu-CREE REtàLEtRAAIuIvIuOvOtàLOtRAvAtàLAtRWAAtà",
    "RWAAtRtàRtÿ RtFEuAAIuIvIuOvOuAvAuWAAtàFWAAtFtձtN-CREE ձtTHItN-CREE THItTHIItN-CREE THIItTHO",
    "wOvAwAvWAAtàTHWAAtTHuձwIwOwAwuYEvIvOvAtNUNAVIK HE$I%I$O%O$A%A$yUT HtHKtQAAIuIvIuOvOuAvAutTL",
    "HEwIwOwAtàRE&I&O&AtNGAAIvIwIvOwOvAwAvuNGtSAYISI SHE$I$O$AtWOODS-CREE ձ+I+O+A+tLHIwIvOwOvAwA",
    "vtTH-CREE ձ%I&I%O&O%A&A%tAIVILIK BtρFOOT E%I%O%A%WE&I&O&A%NE&I&O&A%KE&I&O&AtSAYISI HE#I#O#A",
    "tCARRIER GHU%O%E&E%I%A#RU$O$E%E$I$A#WU$O$E%E$I$A#HWU%O%E&E%I%A#THU%O%E&E%I%A$TU%O%E&E%I%A#P",
    "U$O$E%E$I$A$#GU$O$E%E$I$A#KHU%O%E&E%I%A$KU%O%E&E%I%A%#NU$O$E%E$I$A#MU$O$E%E$I$A#YU$O$E%E$I$",
    "A#JUtSAYISI JUtCARRIER JO$E%E$ItSAYISI JItCARRIER JA$JU%O%E&E%I%A#LU$O$E%E$I$A#DLU%O%E&E%I%",
    "A#LHU%O%E&E%I%A#TLHU&O&E*E&I&A%U%O%E&E%I%A#ZU$O$E%E$I$A$#η Z#DZU%O%E&E%I%A#SU$O$E%E$I$A$HU%",
    "O%E&E%I%A%#TSU%O%E&E%I%A#CHU%O%E&E%I%A#TTSU&O&E*E&I&AuHI^tÎtQAItNGAIuNGIxIwOxOwAxAtWOODS-CR",
    "EE THWEE,I.I,O.O,A.A&ι THtρFOOT WaOGHAM SPACEμgυBEITHnLUISnFEARNnSAILnNIONnUATHnDAIRnTINNEn",
    "COLLoEIRTnMUINnGORTnNGEADALnSTRAIFnRUISnAILMnONNnURnEADHADHnIODHADHnEABHADHnORnUILLEANNnIFI",
    "NnEAMHANCHOLLnPEITHgFEAձRμgéFEAձRμ"]),
  (5792, ["aRUNIC(FEHU FEOH FE FnVnURUZ UR UnYRonWnTHURISAZ THURS THORNnETHnANSUZ AnOS OnAC AoES",
    "CnLONG-BRANCH-OSS OnИ-TWIG-OSS OnOoEoNnRAIDO RAD REID RnKAUNAnCENnKAUN KnGnENGnGEBO GYFU Go",
    "ARnWUNJO WYNN WnHAGLAZ HpEGL HnLONG-BRANCH-HAGЪ HnИ-TWIG-HAGЪ HnNAUDIZ NYD NAUD NnИ-TWIG-NA",
    "UD NnØTED-NnISAZ IS ISS InEnJERAN JnGERnLONG-BRANCH-AR AEnИ-TWIG-AR AnIWAZ EOHnզTHO PEORTH ",
    "PnALGIZ EOLHXnSOWILO SoIGEL LONG-BRANCH-SOL SoHORT-TWIG-SOL SnCnZnTIWAZ TIR TYR TnИ-TWIG-TY",
    "R TnDnBERKANAN BEORC BJARKAN BnИ-TWIG-BJARKAN BnØTED-PnOPEN-PnEHWAZ EH EnMANNAZ MAN MnLONG-",
    "BRANCH-MADR MnИ-TWIG-MADR MnLAUKAZ LAGU LOGR LnØTED-LnеWAZqnDAGAZ DAEG DnOTHALAN EձL OnEARn",
    "IORnCWEORTHoALCoEALCnSTANnLONG-BRANCH-YRnИ-TWIG-YRnICELДIC-YRnQnXgSеLE ÀgMULTIPLE Àgк ÀgARL",
    "AUGζgTVIMADURζgBELGTHORζgυKnSHnOOnFRANKS CASKET OS#IS#EH#AC$ESC"]),
  (5888, ["aTAGALOG(ApIpUpKApGApNGApTApDApNApPApBApMApYApRApLApWApSApHAiò^ ItUiÖռnPAMUDPOD"]),
  (5919, ["aTAGALOG(լC RAaHANUNOO(ApIpUpKApGApNGApTApDApNApPApBApMApYApRApLApWApSApHAiò^ ItUiÖPA",
    "MUDPODaPHILIPPINEÑ Àlα À"]),
  (5952, ["aBUHID(AnInUnKAnGAnNGAnTAnDAnNAnPAnBAnMAnYAnRAnLAnWAnSAnHAgò^ IrU"]),
  (5984, ["aTAGBANWA(AqIqUqKAqGAqNGAqTAqDAqNAqPAqBAqMAqYA"]),
  (5998, ["aTAGBANWA(LAqWAqSA"]),
  (6002, ["aTAGBANWA ò^ IuU"]),
  (6016, ["aKHMER(KAoHAoOoHOnNGOnCAoHAoOoHOnNYOnDAnTTHAnDOnTTHOnNNOnTAoHAoOoHOnNOnBAnPHAoOoHOnMO",
    "nYOnROnLOnVOnчoSOoAnHAnLAnQAgINDEPENDг ò QAQ!AzI!IzU!K!U#VyRY!YyLY!YyQEzAIzOO TYPE Í,ÃzAUgò",
    " INHERг AQwAmÖAArIsIrYsYrUsUsArOErYArIErErAEsIrOOrAUgÖNIKAHITlREAHMUKlYUUKրAPINTUlMUUSIKATO",
    "ANlTRIISAPlBANTOClROBATlTOДAKHIATlKAKABATlAHSDAlSAMYOK SANNYAlVIRIAMlCOENGlBATHAMASATlKHANl",
    "BARIYOOSANlCAMNUC PII KUUHlLEK TOOlBEYYALlPHNAEK MUANlKOOMUUTgCURRENCYζ RIELgÖAVAKRAHASANYA",
    "mTTHACAN"]),
  (6112, ["aKHMER ámÍmÃnþmñnлmГnÛmìmÞ"]),
  (6128, ["aKHMERζ LEK ATTAK SONxMUOYxPIIxBEIyUONxPRAM#-MUOY$PII$BEI%UON"]),
  (6144, ["aMONGOLЦBIRGAkELLIPSISkПkÎkCOLONkñÄkTODO SOFT HYPHENkSIBE չBOUNDARYμERkMANCHU ПrÎkNIR",
    "UGUkFREE пб SELECTOR Í.Ã/þkò ЯkFREE пб SELECTOR ñkáqÍqÃrþqñrлqГrÛqìqÞ"]),
  (6176, ["aMONGOLIAN(ArErIrOrUrOErUErEErNArйrBArPArQArGArMArLArSAsHArTArDArCHArJArYArRArWArFArK",
    "AsHArTSArZArHAArZRArLHArZHIrCHIrTODO Аò^wEwIwOwUwOEwUEwйwBAwPAwQAwGAwMAwTAwDAwCHAwJAwTSAwYA",
    "wWAwKAwGAAwHAAwJIAwNIAwDZArSIBE EwIxYwUExwйwKAwGAwHAwPAwчwTAwDAwJAwFAwGAAwHAAwTSAwZAwRAAwCH",
    "AwZHArMANCHU IyKAyRAyFAyZHArCHA)ÃÄ"]),
  (6272, ["aMONGOLIAN(ALI GALI Ó Í!К Í!DAMARU!UBADAMA!ðUBADAMA!BALUDA!Tþ BALUDA!A!I!KA!NGA!CA!TT",
    "A$HA!DDA!NNA!TA!DA!PA#HA!SSA!ZHA#A!AHrTODO ALI GALI TA*ZHArMANCHU ALI GALI GHA,NGA,CA,JHA,T",
    "TA,DDHA,TA,DHA,SSA,CYA,ZHA.ArALI GALI ÌU*YArMANCHU ALI GALI BHArALI GALI DAGALGArMANCHU ALI",
    " GALI LHA"]),
  (6320, ["aCANADЦSYLLABICS OYtAYuAYtWAYtPOYuAYuWOYtTAYtKAYuWAYtMAYtNOYuAYtLAYtSOYuAYuHOYvAYvWOY",
    "tYOYuAYtRAYtNWItOJIBWAY NWItNWIItOJIBWAY NWIItNWOtOJIBWAY NWOtNWOOtOJIBWAY NWOOtRWEEvIwIvOw",
    "OvAtOJIBWAY P#T#K#C#M#N#S$HtEASжN WtWESжN Wtι ? RеzRAISвØtR-CREE RWEtàLOO&AAtTHWEwAuTHWEwOO",
    "wAAuLHWEwOOtSAYISI SHWE$OO!HOOtCARRIER GWU#DENE GEE#GAA$WAtSAYISI JUUtCARRIER JWAtBEAО DENE",
    " L*RtCARRIER DгиS"]),
  (6400, ["aLIMBU ò-CARRIER LETжgυKAoHAnGAoHAnNGAnCAoHAnJAoHAnYANnTAoHAnDAoHAnNAnPAoHAnBAoHAnMAn",
    "YAnRAnLAnWAnчoSAoAnHAnGYANnTRA"]),
  (6432, ["aLIMBU ò^ ArIrUrEErAIrOOrAUrErOgSUBJOINED(YAxRAxWA"]),
  (6448, ["aLIMBU ?(KAtNGAtÓtTAtNAtPAtMAtRAtLAhIGN MUKPHRENGlKEMPHRENGlSA-I"]),
  (6464, ["aLIMBU^ LOO"]),
  (6468, ["aLIMBU EXCսAбμgQUESбμgámÍmÃnþmñnлmГnÛmìmÞaTAI LE(KAoXAoNGAoTSAoSAoYAoTApHAoLAoPApHAoM",
    "AoFAoVAoHAoQAoKHAoTчoNAoAoIoEEpHoUoOOpoUEoEoAUEpI"]),
  (6512, ["aTAI LE(TÍ-2t3t4t5t6"]),
  (6528, ["aNEW TAI LUE(ыQAtВQAtыKAyXAyNGAtВKAxXAxNGAtыTSAySAyYAtВTSAxSAxYAtыTAzHAyNAtВTAyHAxNAt",
    "ыPAzHAyMAtВPAyHAxMAtыFAyVAyLAtВFAxVAxLAtыHAyDAyBAtВHAxDAxBAtыKVAyXVAtВKVAxXVAtыSUAtВSUA"]),
  (6576, ["aNEW TAI LUE ò^ ò ИENERxAAxIIxUyUxExAExOyAxUExAYyAYxUYxOYyAYxUEYxIYmυι VzNG!zMzKzDzBm",
    "TÍμ-1w2"]),
  (6608, ["aNEW TAI LUE ásÍsÃtþsñtлsГtÛsìsÞmTHAM փÍ"]),
  (6622, ["aNEW TAI LUE^ LAEuVaKHMERζ PATHAMASATnMUOY KOETnPII KOETnBEI KOEToUШKOETnPRAM KOETr-M",
    "UOY KOETsPII KOETsBEI KOETtUШKOETnDAP KOETq-MUOY KOETrPII KOETrBEI KOETsUШKOETrPRAM KOETnTU",
    "TEYASATnMUOY ROCnPII ROCnBEI ROCoUШROCnPRAM ROCr-MUOY ROCsPII ROCsBEI ROCtUШROCnDAP ROCq-MU",
    "OY ROCrPII ROCrBEI ROCsUШROCrPRAM ROCaBUGINESE(KAqGAqNGAsKAqPAqBAqMArPAqTAqDAqNArRAqCAqJAqN",
    "YAsCAqYAqRAqLAqVAqSAqAqHAjò^ IuUuEuOuAE"]),
  (6686, ["aBUGINESE PЪAWAjENDûSECбaTAI THAM(ыKAwHAwXAqВKAvXAvHAqNGAqыCAwHAqВCAuSAuCHAqNYAqRATAq",
    "ыRATHAqDAqВRATHAqRANAqыTAwHAqВTAvHAqNAqBAqыPAwHAvFAqВPAuFAuPHAqMAqВYAqыYAqRArUEqLArUEqWAqыч",
    "wSAwAvHAqLLAqAqВHAqIrIqUrUqEEqOOqLAEqGREAT SAjդ^ ÿ RA*LAyLA Tй LAIjÖMAI Kй LAIjդ^ ι NGAyВPA",
    "yыRATHA OR ВPAyMAyBAySA"]),
  (6752, ["aTAI THAM^ SAKOTjò^ AuMAI SATuAAuTЪ AAuIvIuUEvUEvvUuOvAγvYuEuAEuOOuAIuTHAM AIuOA_jÖMA",
    "I KйoTÍ-1t2oKHUEN TÍ-3z4z5oRA HAAMoMAI SAMoKHUEN-LUE KARAN"]),
  (6783, ["aTAI THAM ÈCRYPTOмMMջØjHORA áuÍuÃvþuñvлuГvÛuìuÞ"]),
  (6800, ["aTAI THAM THAM áuÍuÃvþuñvлuГvÛuìuÞ"]),
  (6816, ["aTAI THAM^ WIйtWAAKoSAWANoKEOWoHOYoDOKMAIoéRքTвRANAoMAI YAMOKoKAANsKUUoSATKAANvKUUoHй",
    "oCAй"]),
  (6832, ["aÈαD ω ACCгlIAERESIS-RеkINFINITYkτ[kЖØkX-XγkWIGGLY оγkOPENμγkα OPENμγkÉ CгRALIZAб νγk",
    "STRONG CгRALIZAб νγkPARгHESES_kα PARгHESES_kPARгHESESγwOОLAYkя?(Wγ%öWγlEFT ú_ Ýk| ú_ |kθúγ ",
    "Ýk| úγ |kêπS_kс^_kðα ARCH_kPLUS^_kα PLUS^_#BELOWkЖÕ ACCгkя?(INSФG;R;T"]),
  (6912, ["aBAоSE^ ULU RICEMsCДRAoCECEKoSURйoBISAHjυAKARAv TEDUNGqIKARAv TEDUNGqUKARAv TEDUNGqRA",
    " REPAx TEDUNGqLA LENGAy TEDUNGqEKARAqAIKARAqOKARAv TEDUNGqKAs MAHAPRANAqGAs GORAqNGAqCAs LA",
    "CAqJAs JERAqNYAqTA LATIKtMURDA MAHAPRANAqDA MURDA ALPAPRANAzMAHAPRANAqNA RAMBATqTAs TAWAqDA",
    "s MADUqNAqPAs KAPALqBAs KEMBйqMAqYAqRAqLAqWAqSA SAGAvPAsqHAjÖREREKANjò^ TEDUNGuULUx SARIuSU",
    "KUy ILUTuRA REPA# TEDUNGuLA LENGA$ TEDUNGuTALе! REPA#TEDUNG#REPA TEDUNGuPEPETz TEDUNGjADEG ",
    "ADEGjυKAF SASAKrHOT SASAKqTZIR SASAKqEF SASAKqVE SASAKqZиSASAKqASYURA SASAKrRCHAջJNYA"]),
  (6992, ["aBAоSE ápÍpÃqþpñqлpГqÛpìpÞjPANTIlMADAjWINDUjCARIK PAMUNGKAHpSIKIpPARERENjPAMENENGjMUS",
    "ICALζ DONGzENGzUNGzй$ SURйzеzAENGzEUNGzAе!NG GEDEyÈTEGEH.ENDEP.KEMPUL<LI.JEGOGAN.KEMPUL)JEG",
    "OGAN<LI)JEGOGAN.BENDE.GONGy|-HД ЕDUG= DAG/CLOSвTUK=вTAKyÝ-HД ЕPй=PUNG.CLOSвPLAK=D PLUK.ЕPеj",
    "PANTI LANTйlMADA LANTй"]),
  (7040, ["aSUNDANESE^ PANYECEKsGLAYARtWISADkυArIrUrAErOrEsUrKArQArGArNGArCArJArZArNYArTArDArNAr",
    "PArFArVArBArMArYArRArLArWArSArXArHAkդ^ PAMеKAL#NYAKRA%IKUkò^ PйHULUyYUKUyAELAENGyOLONGxMEPE",
    "TxNEULEUNGkÖPAMAAEHpռkդ^ PASйAN MA.WAkυKHArSYAkáqÍqÃrþqñrлqГrÛqìqÞkAVAмHAkυREUrLEUrBHArι Kx",
    "MaBATAK(AnSIMALUNGUN AnHAnSIMALUNGUN HAnMДAILаHAnBAnKARO BAnPAnSIMALUNGUN PAnNAnMДAILаNAnWA",
    "nSIMALUNGUN WAnPAKPAK WAnGAnSIMALUNGUN GAnJAnDAnRAnSIMALUNGUN RAnMAnSIMALUNGUN MAoOUձRN TAn",
    "NORձRN TAnSAoIMALUNGUN SAnMДAILаSAnYAnSIMALUNGUN YAnNGAnLAnSIMALUNGUN LAnNYAnCAnNDAnMBAnInU",
    "gÖTOMPIgò^ ErPAKPAK ErEErIrKARO IrOrKARO OrUs FOR SIMALUNGUN SAgդ^ NGvHgPйOLATjONGONAN"]),
  (7164, ["aBATAKζ BINDU NA METEKtPINARBORAStJUDULtPйOLATaLEPCHA(KApLApHAoGApLAoNGAoCApHAoJAoNYA",
    "oTApHAoDAoNAoPApLApHAoFApLAoBApLAoMApLAoTSAqHAoDZAoYAoRAoLAoHApLAoVAoSApHAoWAoAhSUBJOINED(Y",
    "AyRAhò^ AAsIsOtOsUtUsEhդ^ KwMwLwNwPwRwTwNYIN-DOwKйhÖRANmNUKTA"]),
  (7227, ["aLEPCHA À TA-ROLtNYET THYOOM TA-ROLtCER-WAtTSÁ CER-WAzhánÍnÃoþnñoлnГoÛnìnÞ"]),
  (7245, ["aLEPCHA(TTAqHAoDDAaOL CHIKI ápÍpÃqþpñqлpГqÛpìpÞjυLAqATrGrNGrLqLAAqAAKsJsMsWqLIqISrHrN",
    "YrRqLUqUCrDrNNrYqLEqEPrDDrNrRRqLOqOTTrBrVrHjMU TTUDDAGjGAAHLAA TTUDDAAGjMU-GAAHLAA TTUDDAAG",
    "jRELAAjPHAARKAAjAHADjÀ MUCAADvα MUCAADaCYRILLջ?(ROUNDвVEwLONG-LEGGвDEwNARROW OwWIDE ESwTЪ T",
    "Exþ-LEGGвTExЪ HARD^#YATwUNBLENDвUK"]),
  (7312, ["aGEORGЦMTAVRULI >(AN,BAN,GAN,DON,EN,VIN,ZEN,TAN,IN,KAN,LAS,MAN,NAR,ON,PAR,ZHAR,RAE,SA",
    "N,TAR,UN,PHAR,KHAR,GHAN,QAR,SHIN,CHIN.AN,JIL,CIL.HAR,XAN,JHAN,HAE.E.IE,WE,HAR.OE,FI,YN,ELIF",
    "I,öGAN,ւ"]),
  (7357, ["aGEORGЦMTAVRULI >(AEN,HARD^,LABIAL^aSUNDANESE À BINDU SURYA$PйLONG%URNAMA$CAKRA$LEU S",
    "ATйA$KA SATйA$DA SATйA$BA SATйA"]),
  (7376, ["aVEDջTÍ KARчNAlчRAlPRENKHAgÖNIHSHVASAlYAJURVEDջMIDо SVARITAgTÍ YAJURVEDջAGмVATвINDEPE",
    "NDг SVARITAwINDEPENDг SVARITAwKATHAKA INDEPENDг SVARITAlCДRAγlYAJURVEDջKATHAKA INDEPENDг SV",
    "ARITA SCHROEDERlα SVARITAlЖSVARITAlKATHAKA ANUDATTAlØγlÃÄγmþÄγlRIGVEDջKЬMIRI INDEPENDг SVAR",
    "ITAlATHARVAVEDջINDEPENDг SVARITAgÖК SVARITAtUDATTAléК UDATTAlК ANUDATTAléК ANUDATTAlК UDATT",
    "A)ЩtANUDATTA)ЩlÓ ANTARGOMUKHAuBAHIRGOMUKHAuVAMAGOMUKHA*)ЩlTIRYAKlHEXIFORM АÓlАÓlRTHй АÓlÓ U",
    "BHAYATO MUKHAmRDHAКlRքTвARDHAКgTÍ CДRA_gÖJIHVAMULIYAlUPADHMANIYAlATIKRAMAgTÍ Rе_lα Rе_gÖα Ó",
    " ANTARGOMUKHA"]),
  (7424, ["aLATIN(? > A$Eg?(öAEgυ? >дRвB#C#D#ETH$g?(öЕE!Igυ? > J#K#L)ν#M#éN#O$PEN Og?(կWAYS O%PE",
    "N O%)νtöOEgυ? > OUg?(TOP ÌOtղÌOgυ? > P#éR#öR$#Ug?(կWAYS U$DIAERESIZвU$öMgυ? > V#W#Z#EZHnVOI",
    "CвLARYNGEиSPIRANTnւaУK(? > GAMMA#սDA#PI#RHO#PSIaCYRILLIC(? > ELaЗ(> AzEyBzARRвByDyEyéEyGyHy",
    "IyJyKyLyMyNyéNyOzUyPyRyTyUyWq? AwöAwALPHAwöAEwBwDwEwSCHWAwЕEwöЕEwGwöIwKwMwENGwOxPEN OwTOP Ì",
    "OwղÌOwPwTwUwկWAYS UwöMwVwւwBETAwУK GAMMAwDELTAwУK PHIwCHIaяSUBт?(I%R%U%VaУK SUBт?(BETA%GAMM",
    "A%RHO%PHI%CHIaя?(UEtB)ξÏtD)ξÏtF)ξÏtM)ξÏtN)ξÏtP)ξÏtR)ξÏ!FISHÁ]ξÏtS)ξÏtT)ξÏtZ)ξÏtöGaЗ(CYRILLջ",
    "ENaя?(INSФGtTH)STRIKETHROUGHm>(I)νmυIք)νtP)νm>(U)νmυUнON)νtB)PALATиÁtD)PALATиÁtF)PALATиÁtG)",
    "PALATиÁtK)PALATиÁtL)PALATиÁtM)PALATиÁtN)PALATиÁtP)PALATиÁtR)PALATиÁtS)PALATиÁtESH)PALATиÁtV",
    ")PALATиÁtX)PALATиÁtZ)PALATиÁtA)íuLPHA)ítD)Á]ЩtE)ítЕE)ítéЕE)ítSCHWA)ítI)ítЕO)ítESH)ítU)ítEZH",
    ")íaЗ(? öALPHAwCx)CURLwETHwéЕEwFwØLESS J)νwтGwöHwI)νxքw> I*)νwJ)кED-ЩwL)í%PALATиÁw> LwM)ÁwöM",
    ")АLEGwN)θÁ%íw> NwBARRвOwPHIwS)ÁwESHwT)PALATиÁwUдxнONw> UwV)ÁwöVwZx)í%CURLwEZHwձTAaÈØTвмVE A",
    "CCгrÕ ACCгkSNAKEγlUSPENSIONμkÚ-ÕkмVE-ÚkÚ-мVEkÕ-ÚkмVE-Õ-мVEkÕ-мVE-Õkя?(RγkХ-ÚkÚ-Хkα ω_kOGÍK_",
    "kZIGZAGγkISγkUR_lS_kя?(FLATեвЕA_%AE&O&V%C ճ%INSФD%ETH%Gqυ? > Gq?(K%Lqυ? > L;Mq?(Nqυ? > N;Rq",
    "?(R ROTUNDA%S%АS%Z%ALPHA%B&ETA%SCHWA%F%L)α ξÏ%O)É CгRALIZAб ν%P%ESH%U)É CгRALIZAб ν%W%A)è%O",
    ")è%U)èkUP TACK_kKAVYKA_ |xÝkØ_ ÝkWIDE ðBRIDGEγkØγ ÝlELEбμlOUBLE ðХγkALMOSTâγkÝ[х_k|[х]Ð[хγa",
    "я>(A)Rеγg?(A)Rеγg>(B)Ø_g?(B)Ø_g>(B)Øγg?(B)Øγg>(B)оγg?(B)оγg>(C)ճ]Õg?(C)ճ]Õg>(D)Ø_g?(D)Ø_g>(",
    "D)Øγg?(D)Øγg>(D)оγg?(D)оγg>(D)ճg?(D)ճg>(D)ωγg?(D)ωγg>(E)Ú]мVEg?(E)Ú]мVEg>(E)Ú]Õg?(E)Ú]Õg>(E",
    ")ωγg?(E)ωγg>(E)Ïγg?(E)Ïγg>(E)ճ]Хg?(E)ճ]Хg>(F)Ø_g?(F)Ø_g>(G)Úg?(G)Úg>(H)Ø_g?(H)Ø_g>(H)Øγg?(H",
    ")Øγg>(H)èg?(H)èg>(H)ճg?(H)ճg>(H)Хγg?(H)Хγg>(I)Ïγg?(I)Ïγg>(I)è]Õg?(I)è]Õg>(K)Õg?(K)Õg>(K)Øγg",
    "?(K)Øγg>(K)оγg?(K)оγg>(L)Øγg?(L)Øγg>(L)Øγ]Úg?(L)Øγ]Úg>(L)оγg?(L)оγg>(L)ωγg?(L)ωγg>(M)Õg?(M)",
    "Õg>(M)Ø_g?(M)Ø_g>(M)Øγg?(M)Øγg>(N)Ø_g?(N)Ø_g>(N)Øγg?(N)Øγg>(N)оγg?(N)оγg>(N)ωγg?(N)ωγg>(O)Ï",
    "]Õg?(O)Ï]Õg>(O)Ï]èg?(O)Ï]èg>(O)Ú]мVEg?(O)Ú]мVEg>(O)Ú]Õg?(O)Ú]Õg>(P)Õg?(P)Õg>(P)Ø_g?(P)Ø_g>(",
    "R)Ø_g?(R)Ø_g>(R)Øγg?(R)Øγg>(R)Øγ]Úg?(R)Øγ]Úg>(R)оγg?(R)оγg>(S)Ø_g?(S)Ø_g>(S)Øγg?(S)Øγg>(S)Õ",
    "]Ø_g?(S)Õ]Ø_g>(S)յ]Ø_g?(S)յ]Ø_g>(S)Øγ]Ø_g?(S)Øγ]Ø_g>(T)Ø_g?(T)Ø_g>(T)Øγg?(T)Øγg>(T)оγg?(T)о",
    "γg>(T)ωγg?(T)ωγg>(U)èγg?(U)èγg>(U)Ïγg?(U)Ïγg>(U)ωγg?(U)ωγg>(U)Ï]Õg?(U)Ï]Õg>(U)Ú]èg?(U)Ú]èg>",
    "(V)Ïg?(V)Ïg>(V)Øγg?(V)Øγg>(W)мVEg?(W)мVEg>(W)Õg?(W)Õg>(W)èg?(W)èg>(W)Ø_g?(W)Ø_g>(W)Øγg?(W)Ø",
    "γg>(X)Ø_g?(X)Ø_g>(X)èg?(X)èg>(Y)Ø_g?(Y)Ø_g>(Z)ωg?(Z)ωg>(Z)Øγg?(Z)Øγg>(Z)оγg?(Z)оγtH)оγtT)èt",
    "W)Rе_tY)Rе_tA)| ÌRеtАS)Ø_+IAGONиν*ыνg>(чRP Sg?(DELTAg>(A)Øγg?(A)Øγg>(A)Á_g?(A)Á_g>(A)ω]Õg?(",
    "A)ω]Õg>(A)ω]мVEg?(A)ω]мVEg>(A)ω]Á_g?(A)ω]Á_g>(A)ω]Ïg?(A)ω]Ïg>(A)ω]Øγg?(A)ω]Øγg>(A)Х]Õg?(A)Х",
    "]Õg>(A)Х]мVEg?(A)Х]мVEg>(A)Х]Á_g?(A)Х]Á_g>(A)Х]Ïg?(A)Х]Ïg>(A)Х]Øγg?(A)Х]Øγg>(E)Øγg?(E)Øγg>(",
    "E)Á_g?(E)Á_g>(E)Ïg?(E)Ïg>(E)ω]Õg?(E)ω]Õg>(E)ω]мVEg?(E)ω]мVEg>(E)ω]Á_g?(E)ω]Á_g>(E)ω]Ïg?(E)ω",
    "]Ïg>(E)ω]Øγg?(E)ω]Øγg>(I)Á_g?(I)Á_g>(I)Øγg?(I)Øγg>(O)Øγg?(O)Øγg>(O)Á_g?(O)Á_g>(O)ω]Õg?(O)ω]",
    "Õg>(O)ω]мVEg?(O)ω]мVEg>(O)ω]Á_g?(O)ω]Á_g>(O)ω]Ïg?(O)ω]Ïg>(O)ω]Øγg?(O)ω]Øγg>(O)HORN]Õg?(O)HO",
    "RN]Õg>(O)HORN]мVEg?(O)HORN]мVEg>(O)HORN]Á_g?(O)HORN]Á_g>(O)HORN]Ïg?(O)HORN]Ïg>(O)HORN]Øγg?(",
    "O)HORN]Øγg>(U)Øγg?(U)Øγg>(U)Á_g?(U)Á_g>(U)HORN]Õg?(U)HORN]Õg>(U)HORN]мVEg?(U)HORN]мVEg>(U)H",
    "ORN]Á_g?(U)HORN]Á_g>(U)HORN]Ïg?(U)HORN]Ïg>(U)HORN]Øγg?(U)HORN]Øγg>(Y)мVEg?(Y)мVEg>(Y)Øγg?(Y",
    ")Øγg>(Y)Á_g?(Y)Á_g>(Y)Ïg?(Y)Ïg>(MIDDLE-WELSH LLg?(MIDDLE-WELSH LLg>(MIDDLE-WELSH Vg?(MIDDLE",
    "-WELSH Vg>(Y)LOOPg?(Y)LOOPaУK ?(ALPHA)нI&ш&нI]п&ш]п&нI]տ&ш]տ&нI]ù&ш]ùg>(ALPHA)нI+ш+нI]п+ш]п",
    "+нI]տ+ш]տ+нI]ù+ш]ùg?(EнON)нI+ш+нI]п+ш]п+нI]տ+ш]տ"]),
  (7960, ["aУK >(EнON)нI.ш.нI]п.ш]п.нI]տ.ш]տ"]),
  (7968, ["aУK ?(ETA)нI$ш$нI]п$ш]п$нI]տ$ш]տ$нI]ù$ш]ùg>(ETA)нI&ш&нI]п&ш]п&нI]տ&ш]տ&нI]ù&ш]ùg?(Iք)",
    "нI%ш%нI]п%ш]п%нI]տ%ш]տ%нI]ù%ш]ùg>(Iք)нI*ш*нI]п*ш]п*нI]տ*ш]տ*нI]ù*ш]ùg?(OMICRON)нI+ш+нI]п+ш]",
    "п+нI]տ+ш]տ"]),
  (8008, ["aУK >(OMICRON)нI.ш.нI]п.ш]п.нI]տ.ш]տ"]),
  (8016, ["aУK ?(UнON)нI+ш+нI]п+ш]п+нI]տ+ш]տ+нI]ù+ш]ù"]),
  (8025, ["aУK >(UнON)ш"]),
  (8027, ["aУK >(UнON)ш]п"]),
  (8029, ["aУK >(UнON)ш]տ"]),
  (8031, ["aУK >(UнON)ш]ùg?(OMEGA)нI&ш&нI]п&ш]п&нI]տ&ш]տ&нI]ù&ш]ùg>(OMEGA)нI+ш+нI]п+ш]п+нI]տ+ш]տ",
    "+нI]ù+ш]ùg?(ALPHA)п&տtEнON)п+տuTA)п$տtIք)п%տtOMICRON)п+տtUнON)п+տtOMEGA)п&տ"]),
  (8064, ["aУK ?(ALPHA)нI]õ&ш]õ&нI]п]õ&ш]п]õ&нI]տ]õ&ш]տ]õ&нI]ù]õ&ш]ù]õg>(ALPHA)нI]Ç+ш]Ç+нI]п]Ç+ш",
    "]п]Ç+нI]տ]Ç+ш]տ]Ç+нI]ù]Ç+ш]ù]Çg?(ETA)нI]õ$ш]õ$нI]п]õ$ш]п]õ$нI]տ]õ$ш]տ]õ$нI]ù]õ$ш]ù]õg>(ETA)",
    "нI]Ç&ш]Ç&нI]п]Ç&ш]п]Ç&нI]տ]Ç&ш]տ]Ç&нI]ù]Ç&ш]ù]Çg?(OMEGA)нI]õ&ш]õ&нI]п]õ&ш]п]õ&нI]տ]õ&ш]տ]õ&",
    "нI]ù]õ&ш]ù]õg>(OMEGA)нI]Ç+ш]Ç+нI]п]Ç+ш]п]Ç+нI]տ]Ç+ш]տ]Ç+нI]ù]Ç+ш]ù]Çg?(ALPHA)VRACHY&Ú&п]õ&õ",
    "&տ]õ"]),
  (8118, ["aУK ?(ALPHA)ù=NI]õg>(ALPHA)VRACHY+Ú+п+տ+ÇgKORONISgÇhSILIhERISPOMENIgDIALYTIKA]ùg?(ETA",
    ")п]õ$õ$տ]õ"]),
  (8134, ["aУK ?(ETA)ù=]õg>(EнON)п.տwTA)п&տ&ÇgнI]пqտqùg?(Iք)VRACHY%Ú%DIALYTIKA]п=Д տ"]),
  (8150, ["aУK ?(Iք)ù%DIALYTIKA]ùg>(Iք)VRACHY*Ú*п*տ"]),
  (8157, ["aУK ш]пqտqùg?(UнON)VRACHY+Ú+DIALYTIKA]п=KA]տtRHO)нI$шtUнON)ù+DIALYTIKA]ùg>(UнON)VRACH",
    "Y.Ú.п.տvRHO)шgDIALYTIKA]пuտgп"]),
  (8178, ["aУK ?(OMEGA)п]õ&õ&տ]õ"]),
  (8182, ["aУK ?(OMEGA)ù=NI]õg>(OMICRON)п.տxEGA)п+տ+Çgտgш"])]

end TextShell.CharName
