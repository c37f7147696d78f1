/-!
# Names of characters: symbols

Each run starts with the code point of its first name; the names that follow are those of the code
points behind it, on as many lines as they need. The letter or sign before a name says how many
characters it shares with the name before it; any other sign in it stands for a word.
-/

namespace TextShell.CharName

/-- Punctuation, arrows, mathematical and technical symbols, and scripts next to them, from
`U+2000` to `U+2FFF`. -/
def symbols : List (Nat × List String) := [
  (8192, ["aEN QUADbM QUADbN SPACEbM SPACEaTþ-զ-EM SPACEañ-զ-EM SPACEaГ-զ-EM SPACEaFIGURE SPACEa",
    "À SPACEaTHIN SPACEaHAIR SPACEaZERO WIDTH SPACElNON-JOINERlJOINERaÝ-TO-|μa|-TO-θMARKaHYPHENa",
    "NON-BREAKаHYPHENaFIGURE DЬaEN DЬbM DЬaλдaα δ оhВоaθSеLE QUքбμa|Ñ QUքбμaSеLE LOW-9 QUքбμhHIG",
    "H-REОSED-9 QUքбμaθα QUքбμa| α QUքбμaα LOW-9 QUքбμhHIGH-REОSED-9 QUքбμbAGGERbOUBLE DAGGERaBU",
    "LLETaTRIйФBULLETaÍ Ø LEADERaÃ Ø LEADERaλ ELLIPSISbYPHENAбբaо ЯaPARAмPH ЯaÝ-TO-| EMBEDDеa|-T",
    "O-θEMBEDDеaPOP DIRECбAL@ATTеaÝ-TO-| OОRIDEa|-TO-θOОRIDEaNARROW NO-BREAK SPACEaզ MILLE^eեς^b",
    "RIMEaα PRIMEaЖPRIMEaéPRIMEjα PRIMEjЖPRIMEaCARETaSеLE Ý-κ йLE QUքбμh|-κ йLE QUքбμaREFERENCEμ",
    "aα EXCսAбμaINжROBйaOОоaUNDERTIEaCHARACж TIEbARET INSERбբaASжISMaHYPHEN BULLETaFRACб SLЬaθêπ",
    ")QUILLa| êπ)QUILLaα QUESбμaQUESб EXCսAбμaEXCսAб QUESбμaTIRONIAN^ ETaéPILCROW^aρ ε BULLETg|æ",
    " BULLETaВASжISKaéSEMICOLONaCLOSE UPaÃ ASжISKS ALIGNвδLYaCOMMERCIиMINUS^aSWUNG DЬaðUNDERTIEa",
    "FôÀμaTþ Ø ÀaQUADRUPLE PRIMEañ Ø Àbл Ø ÀaÃ Ø Àañ ØμaØTвкaTRICOLONaδ ñÄaý ψSPACEaWORD JOINERa",
    "FUNCб APPLICAбaINVISIBLE TIMESkЯkPLUS"]),
  (8294, ["aÝ-TO-| ISOLATEa|-TO-θISOLATEaFIRST STRONG ISOLATEaPOP DIRECбиISOLATEaINHIBIT SYMMETR",
    "ջSWAPPеaACTIVATE SYMMETRջSWAPPеaINHIBIT ф@ чPеaACTIVATE ф@ чPеaNAбиփчPESbOMINиփчPESaSUզтZER",
    "Omя?(I"]),
  (8308, ["aSUզтñnлmГnÛmìmÞmPLUS^mMINUSmաS^mθúm| úmя?(NcBтZEROkÍkÃlþkñlлkГlÛkìkÞkPLUS^kMINUSkաS^",
    "kθúk| ú"]),
  (8336, ["aяSUBт?(A%E%O%X%SCHWA%H%K%L%M%N%P%S%T"]),
  (8352, ["aEURO-CURRENCY^aCOLON^bRUZEIRO^aFRENCH FRANC^aLIRA^aMILL^aNAIRA^aPESETA^aRUPEE^aWON^a",
    "NEW SHEQEL^aDONG^aEURO^aKIP^aTUGRIK^aDRACHMA^aGERMAN PENNY^aPESO^aGUARANI^aAUSTRAL^aHRYVNIA",
    "^aCEDI^aLIVRE TOURNOIS^aSPESMILO^aեGE^aINDЦRUPEE^aTURKISH LIRA^aNORDICμ^aMANAT^aRUBLE^aLARI",
    "^aBITCOIN^aSOM^"]),
  (8400, ["aÈθHARPOON_k|Ê_kАδ о OОLAYkИ δ о OОLAYkANTICьWISE[_kCьWISE[_kÝ[_k|[_mNG OОLAYkCьWISE ",
    "RаOОLAYkANTICьWISE RаOОLAYkTþÄ_kñÄ_kENCLOSаäuêuуuä BACKSLЬkθ|[_kENCLOSаSCRգuKEYCAPuUPWARD κ",
    "βkREОSE SOLIDUS OОLAYkα δ ν OОLAYkANNUITYζkЖUNDERØkWIDE BRIDGE_kε[ OОLAYlONG α SOLIDUS OОLA",
    "Yk|æÊ)նτkεÊ)նτo[γk|[γkASжISK_"]),
  (8448, ["aACCOUNT OFbDDRESSвTO ձ SUBJECTaα-STRUCK > CbEУ CELSIUSaCгRE оζbARE OFcDA UNAaEULER C",
    "ONSTANTaSCRUPLEaDEУ FAHRENHEITaт? Gh> Haρ-υ> Haα-STRUCK > HaPLANCK CONSTANTpüÃ PIaт> Iaρ-υ>",
    " Iaт> Lh? LaL Bдζaα-STRUCK > NaNUMERO^aSOUND RECORDаCOPY|bCRIPT > Paα-STRUCK > PwQaт> Raρ-υ",
    "> Raα-STRUCK > RaPRESCRIPб TAKEaRESPONSEaSERVICEμaTELEPHÍ^bRADEμ^aОSICLEaα-STRUCK > ZaOUNCE",
    "^bHM^aðOHM^aρ-υ> ZaöУK ?(IքaKELVIN^aйSTROM^aт> Baρ-υ> CaESTIMATEDζaт? Eh> EpFaö> Faт> Mh? O",
    "aրFζaBETζaGIMELζaDրTζaINFORMAб SOURCEaRքTв> QaFACSIMILE^aα-STRUCK ? PIuGAMMAo> GAMMAwPIoN-A",
    "RY SUMMAбaöЧ > G!LaéЧ > LaöЧ > Yaα-STRUCK ITALջ> Dv? D#E#I#JaPROզTY оaöAMզSДaզ^aAKTIESELSKA",
    "Baö? FaSYMBOL FOR SAMARITAN SOURCEaVULGAR FRACб Í SÛTHuNINTHuTгHvHIRDqÃ THIRDSqÍ FIFTHqÃ FI",
    "FTHSrþ FIFTHSqñ FIFTHSqÍ ГTHqFл ГTHSqÍ ìHqTþ ìHSqFл ìHSqSÛ ìHSaFRACб NUMERATOR ÍaROMAN NUME",
    "RиÍoÃpþoñpлoГpÛoìoÞoեoELÛoTWELVEoFIFTYoÍοoFлοoÍςa? ROMAN NUMERиÍuÃvþuñvлuГvÛuìuÞuեuELÛuTWEL",
    "VEuFIFTYuÍοuFлοuÍςaROMAN NUMERиÍς C DoFлςoեςoéÍοaя?(éCaROMAN NUMERиГ LATE@oFIFTY EARLY@uTHO",
    "USДoÍοςaVULGAR FRACб ZERO THIRDSaöփÃoþ"]),
  (8592, ["aε[aUPæ[a|æ[aτ[aθ|[aUP Ð[aС[gEAST[aSOUъ[gWEST[aε[)νa|æ[)νaε WAVE[a|æ WAVE[aε Ã хED[aU",
    "Pæ Ã хED[a|æ Ã хED[aτ Ã хED[aε[)Щa|æ[)Щaε[ FROMдaUPæ[ FROMдa|æ[ FROMдaτ[ FROMдaUP Ð[)BASEaε",
    "[)Áa|æ[)Áaε[)LOOPa|æ[)LOOPaθ| WAVE[lARROW)νaτ ZIGZAG[aUPæ[)TIP εx|æaτ[)TIP εz|æa|æ[)է τaτ[)",
    "է εaANTICьWISE TOP SEMIä[aCьWISE TOP SEMIä[aС[ TO LONGдaε[ TOдü|æ[ TOдaANTICьWISE Еä[aCьWIS",
    "E Еä[aεÊ)նUPæ$τaUPæÊ)ն|æ!εa|æÊ)նUPæ%τaτÊ)ն|æ$εa|æ[üε[aUPæ[ εûτ[aε[ü|æ[kPAIRED[SaUPæ PAIRED[",
    "Sa|æ PAIRED[Saτ PAIRED[SaεÊü|æÊa|æÊüεÊaε α[)νe | α[)νa|æ α[)νaε α[aUPæ α[a|æ α[aτ α[aθ| α[a",
    "UP Ð α[aС α[gEAST α[aSOUъ α[gWEST α[aε TRIPLE[a|æ TRIPLE[aε SQUIGGLE[a|æ SQUIGGLE[aUPæ[)α ν",
    "aτ[)α νaε DЬED[aUPæ DЬED[a|æ DЬED[aτ DЬED[aε[ TOдa|æ[ TOдaε թ[aUPæ թ[a|æ թ[aτ թ[aUPæ թ[ FRO",
    "MдuШPEDESTAL*)λд;δдoα[! ШPEDESTALa|æ թ[ FROM WЪaС[ TO էaSOUъ[ TO էaUP Ð թ[a|[)? äaτ[ εûUPæ[",
    "aTþ |æ[Saε[)δ νa|æ[)δ νaθ|[)δ νeæ[)α δ νa|æ[)α δ νaθ|[)α δ νeæ OPENï[a|æ OPENï[aθ| OPENï[aF",
    "OR ЪaCOMPLEMгaPARTIиDIFFERгIALaձRE EXISTSgDOESմ EXISTaEMPTY SETaINCREMгaNABLAaELEMг OFaNOT ",
    "AN ELEMг OFa? ELEMг OFaCONTւS AS MEMBERaDOESմ CONTւ AS MEMBERa? CONTւS AS MEMBERaENDûPROOFa",
    "N-ARY PRODUCTgCOPRODUCTgSUMMAбaMINUS^f-OR-PLUS^aØ PLUSbIVISIШSLЬaSET MINUSaASжISKÙaRеÙaBULL",
    "ETÙaê ROOTaCUBE ROOTañTH ROOTaPROPORбиTOaINFINITYa| йLEaйLEaMEASURвйLEaSPHERICийLEaDIVIDESb",
    "OESմ DIVIDEaPARЪEL TOaNOT PARЪEL TOaLOGICиДiORaINжSECбaUNIONaINTEмLaα INTEмLaЖINTEмLaCONTOU",
    "R INTEмLaSURFACE INTEмLaVOLUME INTEмLaCьWISE INTEмLkCONTOUR INTEмLaANTICьWISE CONTOUR INTEм",
    "LaձREFOREaBECAUSEaRATIOaPROPORбaØ MINUSaEXCESSaGEOMETRջPROPORбaHOMOձTICaÏÙaéÏaðLAZY SaSINE ",
    "WAVEaWREATH PRODUCTaNOT ÏaMINUS ÏaASYMPTOTICЪYâaNOT ASYMPTOTICЪYâaAPPROXIMATELYâoBUTմ ACTUЪ",
    "YâaNEIձR APPROXIMATELY NOR ACTUЪYâaALMOSTâaNOT ALMOSTâaALMOST EQUиORâaЖÏaЪâaEQUIVALг TOaGEO",
    "METRICЪY EQUIVALг TOaDIFFERENCE BETWգaAPPROACHES ձ LIMITaGEOMETRICЪYâaAPPROXIMATELYâ OR ձ I",
    "MAGE OFaIMAGEûOR APPROXIMATELYâaCOLШաSaաS COLONaRаINâfEQUиTOaCORRESPONDS TOaESTIMATESbQUIйФ",
    "TOaհ աSaDELTAâaEQUиTO BY DEFINIбaMEASURвBYaQUESTIÍDâaNOTâaIDгICиTOaNOT IDгICиTOaSTRICTLY EQ",
    "UIVALг TOaó ORâaã ORâaó OОâaã OОâaó BUTմâaã BUTմâaMUCH ófãaBETWգaNOT EQUIVALг TOeóeãbEIձR ó",
    " NORâiã NORâaó OR EQUIVALг TOaã OR EQUIVALг TOaNEIձR ó NOR EQUIVALг TOiã NOR EQUIVALг TOaó ",
    "OR ãaã OR óaNEIձR ó NOR ãiã NOR óaPRECEDESaSUCCEEDSaPRECEDES ORâaSUCCEEDS ORâaPRECEDES OR E",
    "QUIVALг TOaSUCCEEDS OR EQUIVALг TOaDOESմ PRECEDEjSUCCEEDaSUBSET OFcզSET OFaNOT A SUBSET OFi",
    "զSET OFaSUBSETûORâcզSETûORâaNEIձR A SUBSETûNORâmզSETûNORâaSUBSET OF)NOTâcզSET OF)NOTâaMULTI",
    "SETi MULTIPLICAбjUNIONaê IMAGE OFhORIGINиOFhIMAGEûORâhORIGINALûORâhCAPiUPaäD PLUSiMINUSiTIM",
    "ESiDIVISIШSLЬjOTÙiRеÙiASжISKÙiաSiDЬaêD PLUSiMINUSiTIMESiØÙa| TACKaθTACKaÐ TACKaUP TACKaASSE",
    "RбaMODELSaTRUEaFORCESaЖδд | TURNSTILEaα δд α | TURNSTILEcESմ PROVEaNOT TRUEaDOESմ FORCEaNEG",
    "ATвα δд α | TURNSTILEaPRECEDES UNDER RELAбaSUCCEEDS UNDER RELAбaNORMиSUBGROUP OFaCONTւS AS ",
    "NORMиSUBGROUPaNORMиSUBGROUPûORâaCONTւS AS NORMиSUBGROUP ORâaORIGINиOFaIMAGE OFaMULTIMAPaHER",
    "MITЦCONJUGATE MATRIXaINжCALATEaXORaNДbORa| йLE)ARCgTRIйLEaN-ARY LOGICиДoORgINжSECбgUNIONaуÙ",
    "bOTÙaհÙaDIVISIШTIMESaBOWTIEaθNORMиFACTOR SEMIDIRECT PRODUCTa| NORMиFACTOR SEMIDIRECT PRODUC",
    "TaθSEMIDIRECT PRODUCTa| SEMIDIRECT PRODUCTbEОSвÏ աSaCURLY LOGICиORoДaα SUBSETjզSEThINжSECбh",
    "UNIONaPITCHFORKaա]PARЪEL TOaó)Øaã)ØaОY MUCH ókãaóâ OR ãaãâ OR óaEQUиTO OR ómãmPRECEDESmSUCC",
    "EEDSaDOESմ PRECEDE OR աjSUCCEвOR աaNOT ê IMAGEûORâlORIGINALûORâaê IMAGEûORմâhORIGINALûORմâa",
    "ó BUTմ EQUIVALг TOaã BUTմ EQUIVALг TOaPRECEDES BUTմ EQUIVALг TOaSUCCEEDS BUTմ EQUIVALг TOaN",
    "OT NORMиSUBGROUP OFaDOESմ CONTւ AS NORMиSUBGROUPaNOT NORMиSUBGROUPûORâaDOESմ CONTւ AS NORMи",
    "SUBGROUP OR աaδ ELLIPSISaMIDо λ ELLIPSISaUP | РиELLIPSISaÐ | РиELLIPSISaELEMг OF)Аλ νqδд AT",
    " ENDûλ νa? ELEMг OF)δд AT ENDûλ νaELEMг OF)Ø_qOОBARa? ELEMг OF)OОBARaELEMг OF)խqÃ λ νSaCONT",
    "ւS)Аλ νoδд AT ENDûλ νa? CONTւS)δд AT ENDûλ νaCONTւS)OОBARa? CONTւS)OОBARaZմAб BAG MEMBERSHI",
    "PaDIAMEж^aELECTRIC[aHOUSEaUP[хaÐ[хaPROJECTлbERSPECTлaWAVY оaθCEILеa| CEILеaθպa| պaղ| CROPhθ",
    "CROPaTOP | CROPeθCROPaéNOT^aê LOZENGEaARCaSEGMгcCTORaTELEPHÍ RECORDERaPOSIб INDICATORaVIEWD",
    "ATA êaPLACEûINжEST^aöNOT^aWATCHaHOURGLASSaTOP θէe| էaղθէh| էaTOP ÌINTEмLaղÌINTEмLaFROWNaSMI",
    "LEaUP[х BETWգ Ã λдSaOPб KEYaERASE TO ձ |aX IN A RECTйLE BOXaKEYBOARDaÝ-κ йLEπa|-κ йLEπaERAS",
    "E TO ձ ÝaBENZENE RеaCYLINDRICITYaЪ AROUND-PROFILEaSYMMETRYaTOTиRUNOUTaDIMENSIШORIGINaCONICи",
    "TAզaSLOPEaCOUNжBOREhSINKaAPL FUNCбALζ I-BEAMwSQUISH QUADwQUAD ա#DIVIDE%AMOND#JOT#äwä STILE%",
    "JOTwSLЬдwBACKSLЬдwQUAD SLЬ#BACKSLЬ#ó#ãwε VANEw|æ VANEwQUAD ε[#|æ[wä BACKSLЬwÐ TACK խxELTA S",
    "TILEwQUAD Ð CARET$ELTAwÐ TACK JOTwUPæ VANEwQUAD UPæ[wUP TACK OОBARwDEL STILEwQUAD UP CARET#",
    "DELwUP TACK JOTwτ VANEwQUAD τ[yOTE խwDELTA խxIAMOND խwJOT խwä խwUP SHOE JOTwQUOTE QUADwä հw",
    "QUAD COLONwUP TACK èwDEL èwհ èwJOT èwä èwÐ SHOE STILEwθSHOE STILEwÏ èwã èwПдwDEL ÏwZILDEwST",
    "ILE ÏxEMICOLШխwQUADմ ա#QUESбwÐ CARET ÏwUP CARET ÏwIքwRHOwOMEGAwALPHA խwEнШխwIք խwOMEGA խwAL",
    "PHAaNOT CHECKμa| йLE)τ ZIGZAG[aSHOULDERвЕBOXaBELLζaδ о)ξØaINSERбζaCONTINUOUS UNDERоζaDISCON",
    "TINUOUS UNDERоζaEMPHASISζaCOMPOSIбζaσê)CгRE δ оaгERζaALжNATл KEYζaHELMζaäD λд)NOTCHiTRIйLE ",
    "ÐaBROKEN ä)NORTHWEST[aUNDOζaMONOSTABLEζaHYSжESISζaOPEN-CIRCUIT-OUTPUT H-TYPEζuL-TYPEζaPASSл",
    "-PULL-Ð-OUTPUTζnUP-OUTPUTζaDIRECT CURRгζ@ ÃaSOFTWARE-FUNCбζaAPL FUNCбALζ QUADaDECIMиЯ KEYζa",
    "PREVIOUS PAGEaNEXT PAGEaPRINT SCRգζaCLEAR SCRգζaθú ÅÁrEXեSIONrôÁa| ú ÅÁsEXեSIONsôÁaθêπ ÅէuE",
    "XեSIONuôէa| êπ ÅէvEXեSIONvôէaθCURLYπ ÅÁtξPIECEtôÁaCURLYπ EXեSIONa| CURLYπ ÅÁuξPIECEuôÁaINTE",
    "GRиEXեSIONaλ о EXեSIONaÅθOR ô| CURLYπ SECбg| OR ôθCURLYπ SECбaSUMMAб TOPkBOTTOMaTOP êπaղêπv",
    "üTOP êπaRADICALζ BOTTOMaθδ BOX оa| δ BOX оaλ SCAN о-1v3v7v9aDгISTRYζ É δ]TOP |:ղ|+WITH äxÐ]",
    "λ)äxUP]λ)äxδ)TRIйLExÐ]λ)TRIйLExUP]λ)TRIйLExδ]WAVExÐ]λ)WAVExUP]λ)WAVExÐ]λxUP]λxδ]TOP Ý:ղÝaê ",
    "FOOTaRETURNζaEJECTζaδ о EXեSIONaMETRICиХjLONGüИjИüLONGjLONGüÃ ИSjÃ ИSüLONGuJOINEDkRISEMEkET",
    "RASEMEjPгASEMEaEARTH GROUNDaFUSEaTOP úaղúaTOP CURLYπaղCURLYπaTOP БπaղБπaσTRAPEZIUMaBENZENE ",
    "Rе)äaЮNESSaFLATNESSaAC CURRгaELECTRICиINжSECбaDECIMиEXPÍNTζaρ |-κ αβgÝ-κ αβgUP-κ αβgÐ-κ αβg",
    "|-κ αβ)δдgÝ-κ αβ)δдg|-κβ)α δдaALARM CьaSTOPWATCHaTIMER CьaHOURGLASS)FLOWаSДaρ ý Ý-κβn|-κβnU",
    "P-κβnÐ-κβaα δдaρ ê FOR STOPgä FOR RECORDaPOWERζgON-OFFζiζgSLEEPζaOBSERО EYEζaSYMBOL FOR NUL",
    "LlհTûхеuTEXTlENDûTEXTtRANSMISSIONnQUIRYlACKNOWLEDGElBELLmACKSPACElλ TABULAбlо FEEDlδ TABULA",
    "бlFORM FEEDlCARRIAGE RETURNlSHIFT OUTrINlDATA LINK ESCAPEmEVICE CONTROL Í!Ã#þ!ñlNEGATл ACKN",
    "OWLEDGElSYNCHRONOUS IDLElENDûTRANSMISSIШBьlCANCELlENDûýlSUBSTITUTElESCAPElFILE ЯlGROUP ЯlRE",
    "CORD ЯlUNIT ЯlSPACElDELETEaBLANKζaЕBOXaSYMBOL FOR NEWоlDELETE@ ÃlSUBSTITUTE@ Ã"]),
  (9280, ["aOCR ÁeCHAIReFORKeðFORKeBELT BUCKLEfOW TIEfRANCH BANK IDгIFICAбeAMOUNTûCHECKeDЬeCUSTO",
    "MER ACCOUNT сeα BACKSLЬ"]),
  (9312, ["aäD փÍoÃpþoñpлoГpÛoìoÞiс եpELÛpTWELVEqHIRTգpñTգqIFTգpГTգqÛTգpìգpÞTգpTWгYaPARгHESIZвփÍ",
    "uÃvþuñvлuГvÛuìuÞoс եvELÛvTWELVEwHIRTգvñTգwIFTգvГTգwÛTգvìգvÞTգvTWгYaփÍ ÎgÃ Îhþ Îgñ Îhл ÎgГ Î",
    "hÛ Îgì ÎgÞ Îaс ե ÎhELÛ ÎhTWELVE ÎiHIRTգ ÎhñTգ ÎiIFTգ ÎhГTգ ÎiÛTգ Îhìգ ÎhÞTգ ÎhTWгY ÎaPARгHE",
    "SIZвя?(A,B,C,D,E,F,G,H,I,J,K,L,M,N,O,P,Q,R,S,T,U,V,W,X,Y,ZaäD я>(A%B%C%D%E%F%G%H%I%J%K%L%M%",
    "N%O%P%Q%R%S%T%U%V%W%X%Y%Zo?(A#B#C#D#E#F#G#H#I#J#K#L#M#N#O#P#Q#R#S#T#U#V#W#X#Y#ZiáaNEGATл äD",
    " с ELÛyTWELVEzHIRTգyñTգzIFTգyГTգzÛTգyìգyÞTգyTWгYaα äD փÍvÃwþvñwлvГwÛvìvÞpс եaNEGATл äD áaBO",
    "X DRAWеS É λnç λnÉ δnç δnÉ ЖDЬ λnç ЖDЬ λnÉ ЖDЬ δnç ЖDЬ δnÉ QUADRUPLE DЬ λnç QUADRUPLE DЬ λn",
    "É QUADRUPLE DЬ δnç QUADRUPLE DЬ δnÉ Ð]|nÐ É]| çsç]| Énç Ð]|nÉ Ð]ÝnÐ É]θçsç]θÉnç Ð]ÝnÉ UP]|n",
    "UP É]| çqç]| Énç UP]|nÉ UP]ÝnUP É]θçqç]θÉnç UP]ÝnÉ δ]|nδ É]| çnUP ç]| Ð ÉnÐ ç]| UP Énδ ç]| ",
    "ÉnÐ É]| UP çnUP É]| Ð çnç δ]|nÉ δ]Ýnδ É]θçnUP ç]θÐ ÉnÐ ç]θUP Énδ ç]θÉnÐ É]θUP çnUP É]θÐ çnç",
    " δ]ÝnÉ Ð]λoEFT ç]| Ð Én| ç]θÐ ÉnÐ É]λ çsç]λ Én| É]θÐ çnθÉ]| Ð çnç Ð]λnÉ UP]λoEFT ç]| UP Én|",
    " ç]θUP ÉnUP É]λ çqç]λ Én| É]θUP çnθÉ]| UP çnç UP]λnÉ δ]λoEFT ç]| δ Én| ç]θδ Énδ É]λ çnUP ç]",
    "Ð λ ÉnÐ ç]UP λ Énδ ç]λ ÉnθUP ç]| Ð Én| UP ç]θÐ ÉnθÐ ç]| UP Én| Ð ç]θUP ÉnÐ É]UP λ çnUP É]Ð ",
    "λ çn| É]θδ çnθÉ]| δ çnç δ]λnÉ α DЬ λnç α DЬ λnÉ α DЬ δnç α DЬ δnα λuδpWNÑ]| αsα]|ÑpUBLE Ð]|",
    "pWNÑ]θαsα]θSеLEpUBLE Ð]ÝnUPÑ]| αqα]|Ñnα UP]|nUPÑ]θαqα]θSеLEnα UP]ÝnδÑ]| αwα]|Ñnα δ]|nδÑ]θαw",
    "α]θSеLEnα δ]ÝpWNÑ]λ αsα]λÑpUBLE Ð]λnUPÑ]λ αqα]λÑnα UP]λnδÑ]λ αwα]λÑnα δ]λnÉ ARC Ð]|+ÝxUP]Ý&",
    "|tРиÅ| TO ôÝ.θTO ô|$кtÝtUPt|tÐnç ÝtUPt|tÐnÉ Ý]ç |tUP]ç Ðnç Ý]É |tUP]É ÐaÅÌBьaôÍ ìH BьkQUARж",
    " BьgTþ ìHS BьgÌBьgFл ìHS BьgTþ QUARжS BьgSÛ ìHS BьaFULL BьaθSÛ ìHS BьfTþ QUARжS BьfFл ìHS B",
    "ьfÌBьfTþ ìHS BьfÍ QUARж BьjìH Bьa| ÌBьaÉ чDEaý чDEaDARK чDEaÅÍ ìH Bьa| Í ìH BьaQUADRANT ôÝp",
    "|jÅÝt]ôÝ]ô|&|yÅ|]ôÝ= ô|p|u]ôÝ/]ô|aρ êaσêm)ROUNDвէSnCONTւаρ ? êaê)λ FILLmδ FILLmORTHOGONикHA",
    "TCH FILLmÅθTO ô| FILLs| TO ôθFILLmРикHATCH FILLaρ ? êaσ? êaρ RECTйLEaσRECTйLEaρ δ RECTйLEaσ",
    "δ RECTйLEaρ PARЪELOмMaσPARЪELOмMaρ UP-κβaσUP-κβaρ UP-κ ?βaσUP-κ ?βaρ |-κβaσ|-κβaρ |-κ ?βaσ|",
    "-κ ?βaρ |-κ POINжaσ|-κ POINжaρ Ð-κβaσÐ-κβaρ Ð-κ ?βaσÐ-κ ?βaρ Ý-κβaσÝ-κβaρ Ý-κ ?βaσÝ-κ ?βaρ ",
    "Ý-κ POINжaσÝ-κ POINжaρ уaσуn CONTւаρ ? уaFISHEYEaLOZENGEaσäaØTвäaä)δ FILLaBULLSEYEbLACK äaä",
    ")θÌρm| ÌρmôÌρmÅÌρs| QUADRANT ρmЪ BUT ÅθQUADRANT ρaθÌρ äa| Ìρ äaINОSE BULLETiσäaÅÌINОSE σäaô",
    "ÌINОSE σäaÅθQUADRANT CIRCФARCg| QUADRANT CIRCФARCaô| QUADRANT CIRCФARCgθQUADRANT CIRCФARCaÅ",
    "ÌäaôÌäaρ ô|βmÝβgÅÝβm|βaσBULLETaê)θÌρm| ÌρmÅθРиÌρmô| РиÌρaσê)δ BISECTаоgUP-κβ)ØaUP-κβ)θÌρ!| ",
    "Ìρaщ äaσê)ÅθQUADRANTsôθQUADRANTy| QUADRANTsÅ| QUADRANTgä)ÅθQUADRANTsôθQUADRANTy| QUADRANTsÅ",
    "| QUADRANTaÅÝβg|βaôÝβaσý êaρ ý êaσý ? êaρ ý ? êaô|βaρ SUN)RAYSaCLOUDaUMBRELLAaSNOWMANaCOMET",
    "aρ հaσհaÉNеaTHUNDERSTORMaSUNaASCENDаNODEaDESCENDаNODEaCONJUNCбaOPPOSIбaρ TELEPHÍaσTELEPHÍaB",
    "ЪOT BOXk)CHECKqXaSALTIREaUMBRELLA)Rւ DROPSaHOT BEОAGEaσSHOGI PIECEaρ SHOGI PIECEaчMROCKaéRք",
    "TвFLORиծ BULLETaρ θκøg| κøaσθκøgUP κøg| κøgÐ κøaSKULL]кBÍSaCAUб^aRADIOACTл^aBIOHAZARD^aCADU",
    "CEUSaANKHaORTHODOX кaCHI RHObROSSûLORRւEjJERUSրMaհ]CRESCгaFARSIζaADI чKTIaHAMMER]SICKLEaPEA",
    "CEζaYIN YйaTRIмM FOR HEAVENmLAKEmFIREmTHUNDERmWINDnAжmMOUNTւmEARTHaWHEELûDHARMAcITE FROWNеÔ",
    "gSMILеÔaρ SMILеÔaσSUN)RAYSaFIRST QUARж MOONaLAST QUARж MOONaMERCURYaFEMր^aEARTHaMր^aJUPIжaS",
    "ATURNaURANUSaNEPTUNEaPLUTOaARIESaTAURUSaGEMINIaCANCERaLEOaVIRGOaLIBRAaSCORPIUSbAGITTARIUSaC",
    "APRICORNaAQUARIUSaPISCESaσCHESS KеmQUգmROOKmBISHOPmKNIGHTmPAWNaρ CHESS KеmQUգmROOKmBISHOPmK",
    "NIGHTmPAWNgSPADE SUITaσծ SUITgу SUITaρ CLUB SUITaσSPADE SUITaρ ծ SUITgу SUITaσCLUB SUITaHOT",
    " SPRеSaQUARжմEaìHմEaBEAMвìHմEShГTEгHմESaMUSջFLAT^gNATURAL^gчRP^aWEST SYRIAC кaEAST SYRIAC к",
    "aUNлRSиRECYCLеζaRECYCLеζ FOR TYPE-1 PLASTICS!2 PLASTICS!3 PLASTICS!4 PLASTICS!5 PLASTICS!6 ",
    "PLASTICS!7 PLASTICSvGENERջMAжIALSaρ UNлRSиRECYCLеζaRECYCLвPAզζaPARTIЪY-RECYCLвPAզζbERMANг P",
    "Aզ^aWHEELCHAIRζaDIEÔ-1j2j3j4j5j6aσä)Ø |sÃÄaρ ä)σØ |sÃ σØSaMONOмM FOR YйoINaDIмM FOR GREAж Y",
    "йlLESSER YINtйlGREAж YINaσFLAGaρ FLAGaHAMMER]PICKaANCHORaквSWORDSaSTAFFûAESCULAPIUSbCրSaրMB",
    "ICaFLOWERaGEARaSTAFFûHERMESaATOMζaFLEUR-DE-LISaOUTLINвσհaTþ оS CONОGа|xÝaWARNе^aыVOLTAGE^aα",
    "D FEMր^iMր^aINжьвFEMր]Mր^aMր]FEMր^fWITH ν^rД Mր]FEMր^aδ Mր)ν^aλ Mր)ν^aý σähρ äh? σäbARRIAGE",
    "ζaDIVORCEζaUNMARRIвPARTNERSHIPζaCOFFINaFUNERиURNaNEUжaCERESaPЪASaJUNOaVESTAaCHIRONaρ MOШLIL",
    "ITHaSEXTILEcMISEXTILEaQUINCUNXaSESQUIQUADRATEbOCCER BЪaBASEBЪaêD KEYaσDRAUGHTS MANpKеaρ DRA",
    "UGHTS MANpKеaSNOWMAN WITHOUT SNOWbUN BEHIND CLOUDaRւaρ SNOWMANaTHUNDER CLOUD]RւbURNвσSHOGI ",
    "PIECEhρ SHOGI PIECEaσу IN êaкаLANESaDISABLвCARaOPHIUCHUSaPICKaCAR SLIDеaHELMET)σкaäD каLANE",
    "SbHւSaNO гRYaALжNATE Í-WAY θWAY TRAFFICaρ Ã-WAY θWAY TRAFFICaσÃ-WAY θWAY TRAFFICaρ θLANE ME",
    "RGEaσθLANE MERGEaDRл SLOW^aç σÐ-κβaθCLOSвгRYaêD SALTIREaFЪаРиIN σä IN ρ êaρ TRUCKaRESTRICTв",
    "θгRY-1w2aASTRONOMICALζ FOR URANUSaç ä)ν]ÃÄ_aPгAмMa|-HДвINжLACвPгAмMaÝ-HДвINжLACвPгAмMaðPгAм",
    "Maρ к ШSHIELDaSHINTO SHRINEaCHURCHbASTLEaHISTORջSITEaGEAR WITHOUT HUBj HДLESaMAPζ FOR ÉHOUS",
    "EbOUNTւaUMBRELLA ШGROUNDaFOUNTւbLAG IN HOLEbERRYaSAILBOATbQUARE ñ էSbKIERaICE SKATEaզSON)BЪ",
    "aTгaJAPANESE BANKζaхSTÍ мVEYARDζaFUEL PUMPaCUP Шρ êaσFLAG)λ ξρ STRIPEaρ SAFETY SCISSORSaÅBL",
    "ADE SCISSORSaρ SCISSORSaôBLADE SCISSORSaσSCISSORSgç CHECKμaTELEPHÍ LOCAб^bAPE DRлaAIRЙaENVE",
    "LOPEaRAISвFISThHДaVICTORY HДaWRITаHДaô| PENCILaPENCILaÅ| PENCILaσNIBaρ NIBaCHECKμaç CHECKμa",
    "MULTIPLICAб Xaç MULTIPLICAб XaBЪOT Xaç BЪOT XaOUTLINвУK кaç УK кaЕCгRE кaç ЕCгRE кaякaчDOWв",
    "σякaOUTLINвякaMALTESE кaհûDAVIDañ TEARDROP-ÆfBЪOON-Æaç ñ BЪOON-Æañ CLUB-Æaρ ñբвհaσñբвհaSPAR",
    "KLESbTRESS OUTLINвσհaäD σհaЕCгRE ρ հaρ CгRE σհaOUTLINвρ հaç OUTLINвρ հaPINWHEEL հaчDOWвσհaç",
    " ASжISKaЕCгRE ASжISKaì ÆgPOINTвρ հoPINWHEEL հaГբвρ հaìբвRECTIоAR ρ հaç ìբвRECTIоAR ρ հaTWEL",
    "VEբвρ հaГTգբвASжISKaTEARDROP-ÆaЕCгRE TEARDROP-Æaç TEARDROP-ÆaГ PETЪвρ]σFLORETTEaρ FLORETTEa",
    "σFLORETTEaì PETЪвOUTLINвρ FLORETTEaäD ЕCгRE ìբвհaç TEARDROP-SPOKвPINWHEEL ASжISKaSNOWFLAKEa",
    "TIGHT TRIFOLIATE SNOWFLAKEaç CHEVRШSNOWFLAKEaSPARKLEaç SPARKLEaBЪOON-Æaì TEARDROP-SPOKвPROP",
    "ELLER ASжISKaç ì TEARDROP-SPOKвPROPELLER ASжISKaкμaчDOWвσäaNEGATл êD кμaô| DROP-чDOWвσêaÅ| ",
    "DROP-чDOWвσêaô| чDOWвσêaÅ| чDOWвσêaρ QUESбμ ËaσQUESбμ ËgEXCսAбμ Ëaρ у MINUS σXaç EXCսAбμζaÉ",
    " δдaý δдaç δдgSеLE öП QUքбμ ËnП QUքбμ Ëgα öП QUքбμ ËnП QUքбμ ËgLOWÑ П QUքбμ Ëkα П QUքбμ ËaC",
    "URVвSTEM PARAмPH^ Ëaç EXCսAбμ Ëgծ EXCսAбμ Ëgρ ծaRքTвç ρ ծ BULLETaFLORиծaRքTвFLORиծ BULLETaý",
    " θú Ëh| ú ËhFLATեвθú Ër| ú ËhÝ-κ йLEπ Ëh|-κ йLEπ Ëaç Ý-κ йLE QUքбμ Ëg|-κ йLE QUքбμ ËgÝ-κ йL",
    "Eπ Ëg|-κ йLEπ ËaÉ θБπ Ëg| Бπ Ëaý θCURLYπ Ëh| CURLYπ ËaDеBAT NEGATл äD փÍ*Ã+þ*ñ+л*Г+Û*ì*Þzс ",
    "եiäD Ч փÍ,Ã.þ,ñ.л,Г.Û,ì,Þ#с եiNEGATл äD Ч փÍ=IT Ã=IT Tþ=IT ñ=IT Fл=IT Г=IT SÛ=IT ì=IT Þ:с ե",
    "aç WIDEï |æ[gPLUS^gMINUS^gDIVISION^gSOUъ[g|æ[gNORъ[aDRAFTаPOINT |æ[aç ROUND-TIPPв|æ[aTRIйLE",
    "ï |æ[açβï |æ[aDЬEDβï |æ[aç DЬEDβï |æ[aρ |æ[aTþ-D TOP-Éв|æ[хiBOTTOM-Éв|æ[хaρ |æ[хaç ρ CURVвτ",
    "]|æ[tUPæ]|æ[aSQUAT ρ |æ[aç CONCAVE-POINTвρ |æ[a|-чDвσ|æ[aÝ-чDвσ|æ[aBACK-TILTвчDOWвσ|æ[aFRON",
    "T-TILTвчDOWвσ|æ[aç ô|-чDOWвσ|æ[gÅ|-чDOWвσ|æ[aNOTCHвô|-чDOWвσ|æ[aCURLY LOOPaNOTCHвÅ|-чDOWвσ|",
    "æ[aäD ç σ|æ[aթ-FEAձRв|æ[aρ-FEAձRвSOUъ[q|æ[qNORъ[aç ρ-FEAձRвSOUъ[w|æ[wNORъ[aTEARDROP-BARBв|æ",
    "[aç TEARDROP-чNKв|æ[aWEDGE-Щв|æ[aç WEDGE-Щв|æ[aOPEN-OUTLINв|æ[aα CURLY LOOPaTþ DIMENSIONийL",
    "Eaթβ CONTւа? թβaզPENDICULARaЕSUBSEThզSETaθS-чPвBAG DELIMIжa| S-чPвBAG DELIMIжaOR)Ø INկaREОS",
    "E SOLIDUS PRECEDаSUBSETaSUզSET PRECEDаSOLIDUSaδд)λ νaψRISаРALaАDIVISIONaψFЪаРALaêD LOGICиДq",
    "ORaσу)CгRвØaД)ØaELEMгûOPENаUPæaô| է)ØaÅθէ)ØaθOUж JOINa| OUж JOINaFULL OUж JOINaщ UP TACKgÐ ",
    "TACKbEFT]| α TURNSTILEpTACKfMULTIMAPbONG | TACKfθTACKaUP TACK)ä_aLOZENGE DIVIDвBY λ RULEaσC",
    "ONCAVE-SIDву#)ε TICK,|æ TICKgê)ε TICKs|æ TICKaψθσêπn| σêπnθйLEπn| йLEπnθα йLEπn| α йLEπnθσБ",
    "πn| σБπnθFLATեвún| FLATեвúaUPæ QUADRUPLE[aτ QUADRUPLE[aANTICьWISE GAPPвä[aCьWISE GAPPвä[a|[",
    ")äD PLUSaАε[f|æ[fθ|[jæ α[f|æ α[fθ| α[jæ[ FROMдf|æ[ FROMдfε α[ FROMдf|æ α[ FROMдqSQUIGGLE[aB",
    "RAILLE PATжN BLANKqØS-1v2v12v3v13v23v123v4v14v24v124v34v134v234v1234v5v15v25v125v35v135v235",
    "v1235v45v145v245v1245v345v1345v2345v12345v6v16v26v126v36v136v236v1236v46v146v246v1246v346v1",
    "346v2346v12346v56v156v256v1256v356v1356v2356v12356v456v1456v2456v12456v3456v13456v23456v123",
    "456v7v17v27v127v37v137v237v1237v47v147v247v1247v347v1347v2347v12347v57v157v257v1257v357v135",
    "7v2357v12357v457v1457v2457v12457v3457v13457v23457v123457v67v167v267v1267v367v1367v2367v1236",
    "7v467v1467v2467v12467v3467v13467v23467v123467v567v1567v2567v12567v3567v13567v23567v123567v4",
    "567v14567v24567v124567v34567v134567v234567v1234567v8v18v28v128v38v138v238v1238v48v148v248v1",
    "248v348v1348v2348v12348v58v158v258v1258v358v1358v2358v12358v458v1458v2458v12458v3458v13458v",
    "23458v123458v68v168v268v1268v368v1368v2368v12368v468v1468v2468v12468v3468v13468v23468v12346",
    "8v568v1568v2568v12568v3568v13568v23568v123568v4568v14568v24568v124568v34568v134568v234568v1",
    "234568v78v178v278v1278v378v1378v2378v12378v478v1478v2478v12478v3478v13478v23478v123478v578v",
    "1578v2578v12578v3578v13578v23578v123578v4578v14578v24578v124578v34578v134578v234578v1234578",
    "v678v1678v2678v12678v3678v13678v23678v123678v4678v14678v24678v124678v34678v134678v234678v12",
    "34678v5678v15678v25678v125678v35678v135678v235678v1235678v45678v145678v245678v1245678v34567",
    "8v1345678v2345678v12345678a|æ Ãï[)δ ν,α δ νaε α[)δ νa|æ α[)δ νaθ| α[)δ νa|æ Ãï[ FROMдaε α[ ",
    "FROMдa|æ α[ FROMдaτ[)λ νaUPæ[)λ νiTRIPLE[aτ TRIPLE[aε α DЬ[a|æ α DЬ[aε ЖDЬ[a|æ ЖDЬ[mWOï ЖDЬ",
    "[lARROW)ØTвSTEMaUPæ[ TOдaτ[ TOдa|æ[)Щ)δ ν+α δ νlÃï[)Щ;)δ ν=ITH α δ νaε[-Щa|æ[-Щaε α[-Щa|æ α",
    "[-Щaε[ TO ρ уa|æ[ TO ρ уaε[ FROMд TO ρ уa|æ[ FROMд TO ρ уaС]SOUъ[gEAST]SOUTH WEST[gWEST[)Ág",
    "EAST[)ÁaSOUъ[)ÁgWEST[)ÁaС[]NORъ[gEAST[]SOUъ[aSOUъ[]SOUTH WEST[gWEST[]С[aRISаРикаFЪаРALaFЪаР",
    "икаRISаРALaSOUъ[ каNORъ[aNORъ[ каSOUъ[aFЪаРикаNORъ[aRISаРикаSOUъ[aNORъ[ каС[gWEST[ каNORъ[a",
    "WAVE[ κ DIRECTLY |aARROW κ |æ ձN CURVаUPæ=τpτ ձN CURVаε<|æa|-կ ARC CьWISE[aÝ-կ ARC ANTICьWI",
    "SE[aTOP ARC ANTICьWISE[aղARC ANTICьWISE[aTOP ARC CьWISE[)MINUSiANTICьWISE[)PLUSaô| SEMICIRC",
    "ФCьWISE[gθSEMICIRCФANTICьWISE[aANTICьWISE CLOSвä[aCьWISE CLOSвä[a|æ[_ И ε[aε[_ И |æ[aИ |æ[_",
    " ε[a|æ[)PLUSγaε[)PLUSγa|æ[ THROUGH Xaθ|[ THROUGH ? äaUPæ Ãï[ FROM ? äaθնUP |дB ÐÊkÐ |дB UPÊ",
    "aUPдB | ÐдB θHARPOONiθÐдB |ÊaθնUP |дB UPÊaUPдB | ÐдB |ÊaθնÐ |дB ÐÊaUPдB θÐдB θHARPOONaεÊ)նU",
    "P TOдa|æÊ)նUP TOдaUPæÊ)ն| TOдaτÊ)ն| TOдaεÊ)նÐ TOдa|æÊ)նÐ TOдaUPæÊ)նθTOдaτÊ)նθTOдaεÊ)նUP FRO",
    "Mдa|æÊ)նUP FROMдaUPæÊ)ն| FROMдaτÊ)ն| FROMдaεÊ)նÐ FROMдa|æÊ)նÐ FROMдaUPæÊ)նθFROMдaτÊ)նθFROMд",
    "aεÊ)նUP_ εÊ)նÐaUPæÊ)նθBEկ UPæÊ)ն|a|æÊ)նUP_ |æÊ)նÐaτÊ)նθBEկ τÊ)ն|aεÊ)նUP_ |æÊ)նUP$Ð_ |æÊ)նÐa",
    "|æÊ)նUP_ εÊ)նUP%Ð_ εÊ)նÐaεÊ)նUP_ АDЬ$Ðγ АDЬa|æÊ)նUP_ АDЬ%Ðγ АDЬaUPæÊ)նθBEկ τÊ)ն|aτÊ)նθBEկ U",
    "PæÊ)ն|a| α[)ROUNDвхaաS^_ |æ[aÏÙ_ |æ[aε[_ ÏÙa|æ[_ ÏÙxALMOSTâaó_ ε[cFTæ[ THROUGH óaã_ |æ[aSUB",
    "SET_ |æ[aε[ THROUGH SUBSETaSUզSET_ ε[aθFISH Щa| FISH ЩaUP FISH ЩaÐ FISH ЩaЖδд DELIMIжaZմAб ",
    "SPOTlTYPE COLONaθσCURLYπa| σCURLYπaθσúa| σúaZմAб θIMAGEπl| IMAGEπlθBINDеπl| BINDеπaθêπ)խa| ",
    "êπ)խaθêπ)TICK IN TOP էa| êπ)TICK IN ղէaθêπ)TICK IN ղէa| êπ)TICK IN TOP էaθйLEπ)Øa| йLEπ)Øaθ",
    "ARC óπa| ARC ãπaα θARC ãπh| ARC óπaθρ Бπa| ρ БπaØTвFENCEaδ ZIGZAG оaMEASURвйLE OPENаÝa| йLE",
    " пNT)êaMEASURв| йLE)ØaйLE)S INկbCUTE йLEaSPHERICийLE OPENаÝyUPaöйLEaéйLEaйLE)խaéйLE)խaOBLIQ",
    "UE йLE OPENаUPwÐaMEASURвйLE)ЕARM ENDаIN[ κ UP]|=ARROW κ UP]Ý=ARROW κ Ð]|=ARROW κ Ð]Ý=ARROW ",
    "κ |]UP=ARROW κ Ý]UP=ARROW κ |]Ð=ARROW κ Ý]ÐaéEMPTY SETaEMPTY SET)OОBARp? ä_p|[_pÝ[_aä)λдgD ",
    "δдiPARЪELiREОSE SOLIDUSiզPENDICULARg DIVIDвBY λд]TOP ÌDIVIDвBY δдhWITH SUզIMPOSвXgD ANTICьW",
    "ISE-RքTвDIVISION^aUP[ THROUGH äaäD σBULLETiBULLETióiãg)? ä TO ձ |mÃ λ νS TO ձ |aêD RISаРиSL",
    "ЬiFЪаРиSLЬiASжISKi? äjQUAREaÃ JOINвêSbRIйLE)Ø_oխaS INβaTRIйLE)SERIFS AT BOTTOMa|β_ ÝβaÝβ BE",
    "կ δдaδд BEկ |βaBOWTIE)θÌρm| ÌρbLACK BOWTIEaTIMES)θÌρl| ÌρaσHOURGLASSaρ HOURGLASSaθWIGGLY FE",
    "NCEa| WIGGLY FENCEaθα WIGGLY FENCEa| α WIGGLY FENCEaINCOMPLETE INFINITYaTIEüINFINITYaINFINI",
    "TY NEGATED)δдaα-ENDвMULTIMAPaê)CONTOURвOUTоaINCREASES ASaSHUFFLE PRODUCTaաS^]SLANTвPARЪEL+)",
    "Ï_aIDгICиTO]SLANTвPARЪELaGLEICH հKaձRMODYNAMICaÐ-κβ)θÌρ$| Ìρaρ у)Ð[gLOZENGEaσä)Ð[aρ ä)Ð[aER",
    "ROR-BARRвσênρ ênσуnρ уnσänρ äaRULE-DELAYEDbEОSE SOLIDUSÙaSOLIDUS)OОBARaREОSE SOLIDUS)λ νaBI",
    "G SOLIDUSeREОSE SOLIDUSaα PLUSaЖPLUSaÝ-κ CURVвйLEπa|-κ CURVвйLEπaTINYaMINYaN-ARY äD ØÙoPLUS",
    "ÙoTIMESÙgUNIONÙ)Ø!PLUSgê INжSECбÙnUNIONÙaÃ LOGICAL]OզATORmORÙaN-ARYφOզATORaMODULO Ã SUMaSUM",
    "MAб)INTEмLaQUADRUPLE INTEмLÙaFINITE PART INTEмLaINTEмL)α νjAОAGE)SLЬaCIRCULAб FUNCбaANTICьW",
    "ISE INTEмбaо INTEмб)RECTйФPATH AROUND POLEwSEMICIRCФPATH AROUND POLErNOT INCLUDаձ POLEaINTE",
    "GRиAROUND AբÙaQUAжNIШINTEмLÙaINTEмL)ε[)ÁoTIMES^oINжSECбoUNIONoOОBARoխaJOINaщ ÝβÙaZմAб SCHEM",
    "A COMPOSIбsPIPеtROJECбaPLUS^)? ä_pω ACCг_pÏ_pØγpÏγpSUBтÃpρβaMINUS^)П_qØγqFЪеÄqRISеÄaPLUS^ I",
    "N θÌän| ÌäaVECTOR OR к PRODUCTaMULTIPLICAб^)Ø_zխaSEMIDIRECT PRODUCT)ղCLOSEDbMЬ PRODUCTaMULT",
    "IPLICAб^ IN θÌäx| ÌäaäD MULTIPLICAб^)ω ACCгaMULTIPLICAб^ IN α äaäD DIVISION^aPLUS^ INβaMINU",
    "S^ INβbULTIPLICAб^ INβaINжIOR PRODUCTa|HД INжIOR PRODUCTaZմAб RELAбиCOMPOSIбaAMALGAMAб OR C",
    "OPRODUCTaINжSECб)ØaUNION)MINUS^lOОBARaINжSECб)OОBARsLOGICиДaUNION)LOGICиORgABOVE INжSECбaIN",
    "жSECб_ UNIONaUNION_д_ INжSECбaINжSECб_д_ UNIONaUNIШBEկ]JOINED)UNIONaINжSECб BEկ]JOINED)INжS",
    "ECбaCLOSвUNION)SERIFShINжSECб)SERIFSaα ê INжSECбoUNIONaCLOSвUNION)SERIFS]SMЬ PRODUCTaLOGICи",
    "Д)Ø_iOR)Ø_aα LOGICиДpORaÃ INжSECTаLOGICиДzORaSLOPащ ORoДaLOGICиOR OОLAPPаLOGICиДiД)ξSTEMiOR",
    ")ξSTEMiД)λ DЬiOR)λ DЬiД)α OОBARrխrα խa? VEE)խaLOGICиOR)α OОBARxխaZմAб DOMւ ANTIRESTRICбlRйE",
    " ANTIRESTRICбaաS^)ØγaIDгICAL)Ø_aЖλд)α δ ν#Жδ νbILDEÙ)Ø_uRISеÄaSIMILAR MINUS SIMILARaCONGRUг",
    ")Ø_aաS)ASжISKaALMOSTâ)ω ACCгbPPROXIMATELY EQUиORâaաS^_ PLUS^aPLUS^_ աS^aաS^_ ÏÙaα COLШաaÃ C",
    "ONSECUTл աS^Sbþ CONSECUTл աS^SaաS^)ÃÄ_]ÃÄγdIVALг)ñÄ_aó)ä INկaã)ä INկaó)QUESбμ_aã)QUESбμ_aó ",
    "OR SLANTEDâaã OR SLANTEDâaó OR SLANTEDâ)Ø INկaã OR SLANTEDâ)Ø INկaó OR SLANTEDâ)Ø_aã OR SLA",
    "NTEDâ)Ø_aó OR SLANTEDâ)Ø_ |aã OR SLANTEDâ)Ø_ Ýaó OR APPROXIMATEaã OR APPROXIMATEaó]SеLE-оմâ",
    "aã]SеLE-оմâaó]NOT APPROXIMATEaã]NOT APPROXIMATEaó_ α-о ա_ ãaã_ α-о ա_ óaó_ SIMILAR OR աaã_ ",
    "SIMILAR OR աaó_ SIMILAR_ ãaã_ SIMILAR_ óaó_ ã_ α-о աaã_ ó_ α-о աaó_ SLANTвա_ ã_ SLANTвաaã_ ",
    "SLANTвա_ ó_ SLANTвաaSLANTEDâ OR óuãuó)Ø INկuã)Ø INկaα-оâ OR óyãmSLANTEDâ OR ó+ãaSIMILAR OR ",
    "ólãiABOVE ó_ աS^oã_ աS^aα NESTвóoãoó)խaã OОLAPPаónBEկ óaó CLOSвBY CURVEaã CLOSвBY CURVEaó C",
    "LOSвBY CURVE_ SLANTвաaã CLOSвBY CURVE_ SLANTвաa?ER THANaщR THANa?ER THAN ORâaщR THAN ORâaաS",
    "^)BUMPY_aPRECEDES_Ñ-о աS^aSUCCEEDS_Ñ-о աS^aPRECEDES_Ñ-оմâaSUCCEEDS_Ñ-оմâaPRECEDES_ աS^aSUCC",
    "EEDS_ աS^aPRECEDES_մâaSUCCEEDS_մâaPRECEDES_ ALMOSTâaSUCCEEDS_ ALMOSTâaPRECEDES_մ ALMOSTâaSU",
    "CCEEDS_մ ALMOSTâaα PRECEDEShSUCCEEDSaSUBSET)ØcզSET)ØcBSET)PLUS^γcզSET)PLUS^γcBSET)MULTIPLIC",
    "Aб^γcզSET)MULTIPLICAб^γcBSETûORâ)Ø_cզSETûORâ)Ø_cBSET OF_ աS^cզSET OF_ աS^cBSET OF_ ÏÙcզSET ",
    "OF_ ÏÙcBSET OF_ ALMOSTâcզSET OF_ ALMOSTâcBSET OF_մâcզSET OF_մâbQUARE θЕBOXÙh| ЕBOXÙaCLOSвSU",
    "BSETjզSETjBSET ORâjզSET ORâaSUBSET_ SUզSETcզSET_ SUBSETcBSET_ SUBSETcզSET_ SUզSETjBEկ SUBSE",
    "TqД JOINвBY DЬ)SUBSETaELEMгûOPENаτaPITCHFORK)TEE TOPaTRANSОSиINжSECбaFORKеaNONFORKеaИ θTACK",
    "gÐ TACKgUP TACKaզPENDICULAR)Saδд Ж| TURNSTILEaα δд θTURNSTILEaδд α θTURNSTILEaα δд α θTURNS",
    "TILEaАDЬ FROM θMEMBERûα δaИ Ð TACK)OОBARgUP TACK)խoABOVE И Ð TACKaα Ð TACKhUP TACKhνմ^aéα ν",
    "մ^aDOESմ DIVIDE)éNEGAб SLЬaδ о)ä_!BELOWaÐ TACK)äγaPARЪEL)λ νoÏÙaЖδд BINARY RELAбuWITH λ νhC",
    "OLONÙhNESTвóoãaα-о SLANTвó ORâuã ORâaЖSOLIDUS BINARY RELAбaщ ЖδдÙaα SOLIDUSÙaσδдaN-ARY σδдb",
    "ORъ թ[gWEST թ[aSOUъ թ[gWEST թ[aθ| թ[eæ ρ[aUPæ ρ[aτ ρ[aNORъ ρ[gWEST ρ[aSOUъ ρ[gWEST ρ[aθ| ρ[",
    "aUP Ð ρ[a|æ[)TIP τ!UPæaε[)TIP τzUPæaê)TOP ÌρmղÌρmÅ| РиÌρmôθРиÌρaу)θÌρn| ÌρnTOP ÌρnղÌρbOTTвê",
    "aρ щ êaσщ êaρ ОY ? êaσОY ? êaρ PгAGONaσPгAGONgHEXAGONaρ HEXAGONaλ ρ HEXAGONaρ щ ägý уaσý уa",
    "ρ ý LOZENGEaσý LOZENGEaρ ? уmLOZENGEaσ? LOZENGEaρ λ ELLIPSEaσλ ELLIPSEaρ δ ELLIPSEaσδ ELLIP",
    "SEaÝ[)? äaTþ ε[SaÝ[)äD PLUSbONG ε SQUIGGLE[bEFTæ Ãï[)δ ν+α δ ν#FROMдvЖDЬ[kARROW)ØTвSTEMvЩ)δ",
    " ν*α δ νkÃï[)Щ:)δ ν=TH α δ νkARROW THROUGH XaWAVE[ κ DIRECTLY ÝaաS^_ ε[aREОSE ÏÙ_ ε[aε[_ RE",
    "ОSE ALMOSTâa|æ[ THROUGH ãzSUզSETaε QUADRUPLE[a|æ QUADRUPLE[bEОSE ÏÙ_ |æ[bIGHTæ[_ REОSE ALMO",
    "STâaÏÙ_ ε[aε[_ ALMOSTâwREОSE ÏÙa|æ[_ REОSE ÏÙaτβï ZIGZAG[aИ SLANTвNORTH[gBACKSLANTвSOUTH[aσ",
    "ý հaρ ? հaσ? հaρ |-κ PгAGONaσ|-κ PгAGONaç щ ägOVAL)OVиINկgä)ä INկmmD SALTIREaSLANTвNORTH[)Á",
    "вхaBACKSLANTвSOUTH[)ÁвЩaSLANTвNORTH[)λ ЩaBACKSLANTвSOUTH[)λ Щbг[ κ τ ձN NORъaИ Bг[ κ τ ձN N",
    "ORъaεβï[aUPæβï[a|æβï[aτβï[aθ|βï[aUP Ðβï[aСβï[gEASTβï[aSOUъβï[gWESTβï[aεβï DЬED[aUPæβï DЬED[",
    "a|æβï DЬED[aτβï DЬED[aCьWISEβï Еä[aANTICьWISEβï Еä[aεβï[ TOдaUPæβï[ TOдa|æβï[ TOдaτβï[ TOд"]),
  (11126, ["aСβï[ TOдgEASTβï[ TOдaSOUъβï[ TOдgWESTβï[ TOдaεβï[)α λ νaUPæβï[)α λ νa|æβï[)α λ νaτβ",
    "ï[)α λ νaλ TAB KEYaδ TAB KEYaεβï[ü|æβï[aUPæβï[ εûτβï[a|æβï[üεβï[aτβï[ εûUPæβï[aεβï PAIRED[S",
    "aUPæβï PAIRED[Sa|æβï PAIRED[Saτβï PAIRED[Saε ρ äD թ[aUPæ ρ äD թ[a|æ ρ äD թ[aτ ρ äD թ[aANTIC",
    "ьWISEβï | U-чPED[&ղU-чPED[&θU-чPED[&TOP U-чPED[aRETURN Ýh|aNEWо Ýi|añ է[S CIRCLаANTICьWISEa",
    "|æ ρ["]),
  (11159, ["aSYMBOL FOR TYPE A ELECTRONICSaTþ-D TOP-Éвε EQUILAжAL[хi|-ÉвUPæ EQUILAжAL[хiTOP-Éв|æ",
    " EQUILAжAL[хiÝ-Éвτ EQUILAжAL[хaρ ε EQUILAжAL[хgUPæ EQUILAжAL[хg|æ EQUILAжAL[хgτ EQUILAжAL[х",
    "aτβï[)АTIP ε=NG TIP |æaUPæβï[)АTIP ε= TIP |æaεβï[)АTIP UPæa|æβï[)АTIP UPæaεβï[)АTIP τa|æβï[",
    ")АTIP τaρ CURVвτ]ε[#|æ[nUPæ]ε[z|æ[nε]UPæ[n|æ]UPæ[nε]τ[n|æ]τ[aRIBBON[ Ð Ýs|nUP Ýq|nθUPn| UPn",
    "θÐn| ÐaUPæ թ[ FROMд)λдc[х IN A RECTйLE BOXaOОLAPPаσêSsД ρ êSmρ êSaBЪOT BOX)É XaäD XiBոXaρ ê",
    " CгREDgу CгREDaöρ PгAGONaλ ρ OCTAGONaρ OCTAGONgý UP-κβ CгREDnÐ-κβ CгREDnÝ-κβ CгREDn|-κβ CгR",
    "EDaNEPTUNE@ ÃaTOP Ìρ äaղÌρ äaÉ ñբвρ CUSPaRքTвÉ ñբвρ CUSPaσñբвCUSPaRքTвσñբвCUSPaê POSIб INDI",
    "CATORaUNCERTւTY^aGROUPμaPLUTO@ ÃmþlñmлaTRANSPLUTOaPROSERPINAaASTRAEAaHYGIEAaPHOLUSaNESSUSaσ",
    "MOШSELENAaρ у ШкaTRUE É MOШARTAaCUPIDOaHADESaZEUSaKRONOSaAPOLLONbDMETOSaVULCANUSaPOSEIDONaθ",
    "Ìρ հa| Ìρ հaհ)θÌρk| Ìρaε Ãï[)TRIйLE[хSaUPæ Ãï[)TRIйLE[хSa|æ Ãï[)TRIйLE[хSaτ Ãï[)TRIйLE[хSaE",
    "RIS@ ÍkÃaSEDNAaRUSSЦASTROLOGICALζ VIGINTILE$NOVILE$QUINTILE$BINOVILE$SгAGON$TREDECILEaաS^)I",
    "NFINITYγaUNITEDζaSEPARATEDζaαDζaPASSEDζaé| йLEaHELLSCHREIBER PAUSEζaGLAGOLITջ>(AZU!BUKY!VED",
    "E!GLAGOLI!DOBRO!YESTU!ZHлTE!DZELO!ZEMLJA!IZHE#NITIиIZHE#!DJERVI!KAKO!LJUDIJE!MYSLITE!NЬI!ON",
    "U!POKOJI!RITSI!SLOVO!TVRIDO!UKU!FRITU!HERU!OTU!PE!SHTA!TSI!CHRIVI!ч!YERU%I#ATI!SPIDERY HA!Y",
    "U!? YUS/)Щ!YO!IքTв? YUS!BIG YUS!IքTвBIG YUS!FITA!IZHITSA!SHTAPIC!TROKUTASTI A!LATINATE MYSL",
    "ITE!CAUDATE CHRIVIl?(AZUyBUKYyVEDEyGLAGOLIyDOBROyYESTUyZHлTEyDZELOyZEMLJAyIZHEzNITIиIZHEzyD",
    "JERVIyKAKOyLJUDIJEyMYSLITEyNЬIyONUyPOKOJIyRITSIySLOVOyTVRIDOyUKUyFRITUyHERUyOTUyPEySHTAyTSI",
    "yCHRIVIyчyYERU#IzATIySPIDERY HAyYUy? YUS,)ЩyYOyIքTв? YUSyBIG YUSyIքTвBIG YUSyFITAyIZHITSAyS",
    "HTAPICyTROKUTASTI AyLATINATE MYSLITEyCAUDATE CHRIVIaя>(L)αдg?(L)αдg>(L)ξÏvP)νvR)Щg?(A)νtT)Р",
    "иνg>(H)Üg?(H)Üg>(K)Üg?(K)Üg>(Z)Üg?(Z)Üg>(ALPHAvM)ÁvöA%LPHAg?(V)| Ág>(W)Ág?(W)ÁtV)CURLg>(ÌHg",
    "?(ÌHtЩLESS PHItE)NOTCHtöR)ЩtO)ВRаINկgυ? > öEgSUBт?(JaЗ(> Vaя>(S)SWЬ ЩvZ)SWЬ ЩaCOPTջ>(ALFAh?",
    "(ALFAh>(VIDAh?(VIDAh>(GAMMAh?(GAMMAh>(DALDAh?(DALDAh>(EIEh?(EIEh>(SOUh?(SOUh>(ZATAh?(ZATAh>",
    "(HATEh?(HATEh>(ձձh?(ձձh>(IAUDAh?(IAUDAh>(KAPAh?(KAPAh>(LAULAh?(LAULAh>(MIh?(MIh>(NIh?(NIh>(",
    "KSIh?(KSIh>(Oh?(Oh>(PIh?(PIh>(ROh?(ROh>(SIMAh?(SIMAh>(TAUh?(TAUh>(UAh?(UAh>(FIh?(FIh>(KHIh?",
    "(KHIh>(PSIh?(PSIh>(OOUh?(OOUh>(DIրCT-P րFh?(DIրCT-P րFh>(Лւh?(Лւh>(CRYPTOмMMջEIEh?(CRYPTOмM",
    "MջEIEh>(DIրCT-P KAPAh?(DIրCT-P KAPAh>(DIրCT-P NIh?(DIրCT-P NIh>(CRYPTOмMMջNIh?(CRYPTOмMMջNI",
    "h>(ЛOOUh?(ЛOOUh>(SAMPIh?(SAMPIh>(квSHEIh?(квSHEIh>(ЛSHEIh?(ЛSHEIh>(ЛESHh?(ЛESHh>(AKHMIMջKHE",
    "Ih?(AKHMIMջKHEIh>(DIրCT-P HORIh?(DIրCT-P HORIh>(ЛHORIh?(ЛHORIh>(ЛHAh?(ЛHAh>(L-чPвHAh?(L-чPв",
    "HAh>(ЛHEIh?(ЛHEIh>(ЛHATh?(ЛHATh>(ЛGйIAh?(ЛGйIAh>(ЛDJAh?(ЛDJAh>(ЛSHIMAh?(ЛSHIMAh>(ոNUBЦSHIMA",
    "h?(ոNUBЦSHIMAh>(ոNUBЦNGIh?(ոNUBЦNGIh>(ոNUBЦNYIh?(ոNUBЦNYIh>(ոNUBЦWAUh?(ոNUBЦWAUiYMBOL KAIoM",
    "I ROoPI ROoSTAUROSoTAU ROoKHI ROoSHIMA SIMAh>(CRYPTOмMMջSHEIh?(CRYPTOмMMջSHEIh>(CRYPTOмMMջG",
    "йIAh?(CRYPTOмMMջGйIAhÈNI_rSPIRITUS ASզ!LENISiAPITAL(BOHAIRջKHEIh?(BOHAIRջKHEI"]),
  (11513, ["aCOPTջոNUBЦÎsDIRECT QUESбμsINDIRECT QUESбμsОSE DIVIDERhFRACб Í HALFiULL STOPhMORPHOL",
    "OGICиDIVIDERaGEORGЦ?(ANwBANwGANwDONwENwVINwZENwTANwINwKANwLASwMANwNARwONwPARwZHARwRAEwSANwT",
    "ARwUNwPHARwKHARwGHANwQARwSHINwCHINxANwJILwCILxHARwXANwJHANwHAExExIEwWEwHARxOE"]),
  (11559, ["aGEORGЦ?(YN"]),
  (11565, ["aGEORGЦ?(AEN"]),
  (11568, ["aTIFINAGH(YAsBtHsGtHHqBERBER ACADEMY YAJqYAJsDtHtDuHrEYrAFsKqTUAREG YAKqYAKHHsHqBERB",
    "ER ACADEMY YAHqTUAREG YAHqYAHHsAsKHqTUAREG YAKHqYAQqTUAREG YAQqYIrAZHqAHAGGAR YAZHqTUAREG Y",
    "AZHqYALsMsNqTUAREG YAGNzNGqYAPrUrARtRsGHqTUAREG YAGHqAYER YAGHqYAStStHsTtHsCHsTTsVsWsYsZqTA",
    "WELLEMET YAZqYAZZrErO"]),
  (11631, ["aTIFINAGH З(LABIALIZAбμjЯμ"]),
  (11647, ["aTIFINAGH դ JOINERaåLOAsMOAsROAsSOAtHOAsBOAsTOAsCOAsNOAtYOAsGLOTTиOAsZOAsDOAtDOAsJOA",
    "sTHOAsCHOAsPHOAtOAsGGWAvIvEEw"]),
  (11680, ["aåSSAuUuIuAAuEEvuO"]),
  (11688, ["aåCCAuUuIuAAuEEvuO"]),
  (11696, ["aåZZAuUuIuAAuEEvuO"]),
  (11704, ["aåCCHAvUvIvAAvEEwvO"]),
  (11712, ["aåQYAuUuIuAAuEEvuO"]),
  (11720, ["aåKYAuUuIuAAuEEvuO"]),
  (11728, ["aåXYAuUuIuAAuEEvuO"]),
  (11736, ["aåGYAuUuIuAAuEEvuO"]),
  (11744, ["aÈCYRILLIC(BE!VE!GHE!DE!ZHE#E!KA!EL#M#N!O!PE!ER#S!TE!HA!TSE!CHE!ч$CHA!FITA!ES-TE!A!I",
    "E!DJERV!MONOмPH UK!YAT#U!IOTIFIвA!э YUS!BIG YUS!IOTIFIвBIG YUSa| йLE SUBSTITUбμERmØTвSUBSTI",
    "TUбμERaθSUBSTITUбπa| SUBSTITUбπaθØTвSUBSTITUбπa| ØTвSUBSTITUбπbAISвINжPOLAбμERhØTвINжPOLAбμ",
    "ERaØTвTRANSPOSIбμERaθTRANSPOSIбπa| TRANSPOSIбπbAISвêaθRAISвOMISSIONπa| RAISвOMISSIONπaEDITO",
    "RIиCORONISaPARAмPHOSaFORKвPARAмPHOSaéFORKвPARAмPHOSaHYPODIASTOLEaØTвOBELOScWNæ ANCORAaUPæ A",
    "NCORAaØTв|-κ йLEcUBLE OBLIQUE HYPHENaðINжROBйaPALM BRANCHaHYPHEN)èaÏ)Rе_aθВPARAPHRASEπa| ВP",
    "ARAPHRASEπaÏ)Ø_pBELOWaθδд)QUILLa| δд)QUILLaTOP θHALFπe| HALFπaղθHALFπh| HALFπaθկWAYS Uπa| կ",
    "WAYS Uπaθα úa| α úaÃÄüÍ Ø ÀaÍ ØüÃÄ ÀaêD ñ Ø ÀaFл ØμaéQUESбμaδ ÏaRаPOINTaWORD Я ξØaöПaRAISвØ",
    "hПaöSEMICOLONaDAGGER)θGUARDm| GUARDaöDAGGERbOP ÌSECб^bWO-EM DЬbþ-EM DЬaSեOмPHջÎaδ ГÄaWIGGLY",
    " δ оaCAPITULUMaα HYPHENaéПaα LOW-REОSED-9 QUքбμbЬ)θUPTURNbOUBLE SUSPENSIONμaðВKAVYKAt)KAVYK",
    "A_aВKAVYKAk)Øaα STACKвПcTTвSOLIDUSaЖDAGGERaMEDIEVиПaPARAмPHUSμbUNCTUS ELEVATUSμaCORNISH ОSE",
    " DIVIDERbROSS PATTY)| кBARrθкBARaTIRONIAN^ > ETaMEDIEVиEXCսAбμjQUESбμaθêπ)νa| êπ)νaθêπ)α νa",
    "| êπ)α νaTOP Ìθúj| úaղÌθúm| úaOBLIQUE HYPHEN"]),
  (11904, ["aCJK RADICиREPEATmCLIFFmSECOND ÍtÃuþmզSONmBOXmTABLEmKNIFE ÍsÃmDIVINAбmSEALnMЪ ÍsÃmսE",
    " ÍrÃsþrñmSNAKEmTHREADmSNOUT ÍsÃmծ ÍsÃnДmRAP"]),
  (11931, ["aCJK RADICиCHOKEmSUNmMOONmDEATHmMOձRmCIVILIANmWAж ÍsÃmFIREmPAW ÍqÃmշвÌTREE TRUNKmCOW",
    "mDOGmJADEmBOLTûCLOTHmEYEmSPIRIT ÍtÃmBAMBOOmSILKmC-շвSILKmNET ÍqÃrþqñmMESHmSHEEPmRAMmEWEmOLD",
    "mBRUSH ÍsÃmMEATnORTARmмSS ÍsÃtþmTIGERmCLOձSmWEST ÍrÃmC-շвSEEmշвHORNmHORNmC-շвSPEECH!HELLmFO",
    "OTmC-շвCARTmշвWALKmWALK ÍrÃmCITYn-շвGOLDmАÍrÃmC-շвLONGzGATEmMOUND ÍsÃmRւmBLUEmC-շвTANNвLEAձ",
    "RzLEAFzWINDzFLYmEAT ÍqÃrþmC-շвEATmхmC-շвHORSEmBÍmGHOSTmC-շвFISHzBIRDzSALTmշвWHEATxYELLOWmC-",
    "շвFROGmJ-շвÛmC-շвÛmJ-շвTOOTHmC-շвTOOTHmJ-շвDRAGONmC-շвDRAGONmTURTLEmJ-շвTURTLEmC-շвTURTLE"]),
  (12032, ["aKйXI RADICиÍpоpØpSLЬqECONDpÁpÃpLIDpMANpLEGSpгERqIGHTpÐ BOXpCOОpICEpTABLEpЕBOXpKNIFE",
    "pPOWERpWRAPpSPOONp| ЕBOXpHIDаENCLOSUREpեpDIVINAбpSEALpCLIFFpPRIVATEpAGւpMOUTHpENCLOSUREqART",
    "HpSCHOLARpGOr SLOWLYpÛеpBIGpWOMANpCHILDpROOFpINCHp?pսEpCORPSEpSPROUTpMOUNTւpRлRpWORKpÍSELFp",
    "TURBANpDRYpИ THREADpØTвCLIFFpАSTRIDEpÃ HДSpSHOOTpBOWpSNOUTpBRISTLEpSTEPpծqALBERDpDOORpHДpBR",
    "ANCHpRAPpSCRIPTpDIPզpAXEpêpNOTpSUNqAYpMOONpTREEpLACKpSTOPpDEATHpWEAPONpDOմpCOMPAREpFURpCLAN",
    "pSTEAMpWAжpFIREpCLAWpFAձRpα XpÌTREE TRUNKpSLICEpFйpCOWpDOGpPROFOUNDpJADEpMELONpTILEpSWEETpL",
    "IFEpUSEpFIELDpBOLTûCLOTHpSICKNESSpØTвTгpթpSKINpDISHpEYEpSPEARpARROWpSTÍqPIRITpTRACKpмINpCAV",
    "EpSTДpBAMBOOpRICEpSILKpJARpNETpSHEEPpFEAձRpOLDpДpPLOWpEARpBRUSHpMEATqINISжpSELFpARRлpMORTAR",
    "pTONGUEpOPPOSEpBOATpSTOPPеpCOLORpмSSpTIGERpINSECTpBLOODpWALK ENCLOSUREpCLOձSpWESTpSEEpHORNp",
    "SPEECHpVЪEYpBEANpPIGpBADGERpSHELLpREDqUNpFOOTpBODYpCARTpBITжpMORNеpWALKpCITYpWINEpDISTеUISH",
    "pVILLAGEpGOLDpLONGpGATEpMOUNDpSLAVEqHORT ЩвBIRDpRւpBLUEpWRONGpFACEpLEAձRpTANNвLEAձRpLEEKpSO",
    "UNDpLEAFpWINDpFLYpEATpхpFRAмNTpHORSEpBÍpTЪpHAIRpFIGHTpSACRIFICIиWINEpCAULDRONpGHOSTpFISHpBI",
    "RDpSALTpDEERpWHEATpHEMPpYELLOWpMILLETpρpEMBROIDERYpFROGpTRIPODpDRUMpRATpNOSEpÛpTOOTHpDRAGON",
    "pTURTLEpFLUTE"]),
  (12272, ["aIDEOмPHջDESCRIPб CHARACж θTO |.ABOVE TOγ.θTO MIDDLE]|.ABOVE TO MIDDLE]BELOW.FULL SU",
    "RROUND.SURROUND FROM_=UND FROMγ=UND FROM Ý=UND FROM ÅÝ=UND FROM Å|=UND FROM ôÝ.OОLAID"])]

end TextShell.CharName
