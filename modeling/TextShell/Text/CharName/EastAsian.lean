/-!
# Names of characters: East Asia and presentation forms

Each run starts with the code point of its first name; the names that follow are those of the code
points behind it, on as many lines as they need. The letter or sign before a name says how many
characters it shares with the name before it; any other sign in it stands for a word.
-/

namespace TextShell.CharName

/-- Scripts of East Asia and forms of presentation, from `U+3000` to `U+FFFF`. -/
def eastAsian : List (Nat × List String) := [
  (12288, ["aIDEOмPHջSPACEmПmÎaDITTOμaJAPANESE INDUSTRIиSTДARDζaIDEOмPHջIжAбμmCLOSеμmс ZEROaθйLE",
    "πa| йLEπaθα йLEπa| α йLEπaθէπa| էπaθσէπa| σէπaθρ LгICULARπa| ρ LгICULARπaPOSTALμaGETAμaθБπa",
    "| БπaθσLгICULARπa| σLгICULARπaθσБπa| σБπaθσêπa| σêπaWAVE DЬaéα PRIME QUքбμaα PRIME QUքбμaВα",
    " PRIME QUքбμaPOSTALμÔaHйZHOU NUMERиÍrÃsþrñsлrГsÛrìrÞaIDEOмPHջLEVEL TÍμmRISаTÍμmDEPARTаTÍμmг",
    "ERаTÍμaHйULÑ Ø TÍμhα Ø TÍμaWAVY DЬaδ KANA REPEATμvWITH VOICвSOUNDμvMARK ÅHALFvWITH VOICвSOU",
    "NDμ ÅHALFvMARK ôHALFaäD POSTALμaIDEOмPHջTELEмPH о FEвЯζaHйZHOU NUMERиեsWгYsօaδ IDEOмPHջIжAб",
    "μaMASUμaPART ALжNAбμaIDEOмPHջпб INDICATORmÌFILL SPACE"]),
  (12353, ["aHIRAGANA(? AqAq? IqIq? UqUq? EqEq? OqOqKAqGAqKIqGIqKUqGUqKEqGEqKOqGOqSAqZAqSIqZIqSU",
    "qZUqSEqZEqSOqZOqTAqDAqTIqDIq? TUqTUqDUqTEqDEqTOqDOqNArIrUrErOqHAqBAqPAqHIqBIqPIqHUqBUqPUqHE",
    "qBEqPEqHOqBOqPOqMArIrUrErOq? YAqYAq? YUqYUq? YOqYOqRArIrUrErOq? WAqWArIrErOqNqVUq? KAxE"]),
  (12441, ["aÈKATAKANA-HIRAGANA VOICвSOUNDμ$SEMI-VOICвSOUNDμaKATAKANA-HIRAGANA VOICвSOUNDμsSEMI-",
    "VOICвSOUNDμaHIRAGANA IжAбμjVOICвIжAбμjDIмPH YORIaKATAKANA-HIRAGANA α HYPHENi(? AqAq? IqIq? ",
    "UqUq? EqEq? OqOqKAqGAqKIqGIqKUqGUqKEqGEqKOqGOqSAqZAqSIqZIqSUqZUqSEqZEqSOqZOqTAqDAqTIqDIq? T",
    "UqTUqDUqTEqDEqTOqDOqNArIrUrErOqHAqBAqPAqHIqBIqPIqHUqBUqPUqHEqBEqPEqHOqBOqPOqMArIrUrErOq? YA",
    "qYAq? YUqYUq? YOqYOqRArIrUrErOq? WAqWArIrErOqNqVUq? KAxEqVArIrErOjξØi-HIRAGANA PROLONGвSOUN",
    "Dμi IжAбμjVOICвIжAбμjDIмPH KOTO"]),
  (12549, ["aBOPOMOFO(BqPqMqFqDqTqNqLqGqKqHqJqQqXqZHqCHqSHqRqZqCqSqAqOqErHqAIqEIqAUqOUqANqENqйqE",
    "NGrRqIqUqIUqVqNGqGNqIHqO)Ø_qNN"]),
  (12593, ["aHйUL(МoSSйМoМ-իoNзNt-CзCuHзHoըoSSйըoRзLt-МuMзMuPзPuիuTHзTHuPHзPHuHзHoMзMoPзPoSSйPзP",
    "oPзP-իoիpSйիoзNGoCзCoSSйCзCoCHзCHoKHзKHoTHзTHoPHзPHoHзHoApEoYAqEoEOpoYEOqoOoWAqEoOEoYOoUoWE",
    "OqpIoYUoEUoYIoIhFILLERhυSSйNзNoNзN-ըuիuPANիoRзL-М-իuըuPзP-իvANիuYEORINHзHoMзM-PзPuիuPANիoKA",
    "PYEOUNMзMoPзP-Мuըuի-МzըuCзCuTHзTHoKAPYEOUNPзPwSSйPзPoի-МtNзNtըtPзPtCзCoPANիoSSйзNGoYESзNGw-",
    "իxPANիoKAPYEOUNPHзPHoSSйHзHoYEORINHзHpO-YAtErIpU-YEOtrIoARAEAtE"]),
  (12688, ["aIDEOмPHջANNքб LINKеμxREОSEμxÍμxÃμyþμxñμxTOPμxMIDDLEμxBOTTOMμxFIRSTμxSECONDμxTHIRDμx",
    "ñTHμxHEAVENμxEARTHμxMANμaBOPOMOFO(BUqZIqJIqGUqEErNNqOOrNNqIRqANNqINNqUNNqIMqNGGqւNrUNNrMqOM",
    "rNGqINNNjι(PwTwKwHjυGHqLHqZYjι(GjυGWqKWqOEqAHaCJK ν TlWGlXGlBXGlSWlHZZnGmPmZWGlSZWGlHZTnZPm",
    "PWGmZWnZZlNlHlSlPlSPlDlHZmGlSZmWZmTmGlPDmZlTNlSZZmWGlHXWGmZZZGlPGlQ"]),
  (12784, ["aKATAKANA(? KUwSIxUwTOwNUwHAxIxUxExOwMUwRAxIxUxExOaPARгHESIZвHйUL МvNзNvըvRзLvMзMvPз",
    "PvիvзNGvCзCwHзCHvKHзKHvTHзTHvPHзPHvHзHvМ AvNзN Avը AvRзL AvMзM AvPзP Avի AvзNG AvCзC AwHзCH",
    " AvKHзKH AvTHзTH AvPHзPH AvHзH AvCзC UoKOREAN CHARACж OJEON+ HU"]),
  (12832, ["aPARгHESIZвIDEOмPH ÍyÃzþyñzлyГzÛyìyÞyեyMOONyFIREyWAжzOODyMETALyEARTHySUNzTOCKyHAVEyS",
    "OCIETYyNAMEySPECIALyFINANCIALyCONмTULAбyLABORyREPRESгyCЪySTUDYzUզVISEyгERPRISEyRESOURCEyЪIA",
    "NCEyFESTIVALyRESTySELFyREACHaäD IDEOмPH QUESбsKINDERGARեsSCHOOLsKOTOiс ե Шρ êqWгY Шρ êqօ Шρ",
    " êpFORTY Шρ êqIFTY Шρ êpГTY Шρ êqÛTY Шρ êpìY Шρ êaPARTNERSHIP^aäD с TWгY ÍwÃxþwñxлwГxÛwìwÞq",
    "օv ÍwÃxþwñxлiHйUL МpNзNpըpRзLpMзMpPзPpիpзNGpCзCqHзCHpKHзKHpTHзTHpPHзPHpHзHpМ ApNзN Apը ApRз",
    "L ApMзM ApPзP Apի ApзNG ApCзC AqHзCH ApKHзKH ApTHзTH ApPHзPH ApHзH AiKOREAN CHARACж CHAMKOz",
    "JUEUIiHйUL зNG UaKOREAN STДARDζaäD IDEOмPH ÍsÃtþsñtлsГtÛsìsÞsեsMOONsFIREsWAжtOODsMETALsEART",
    "HsSUNtTOCKsHAVEsSOCIETYsNAMEsSPECIALsFINANCIALsCONмTULAбsLABORsSECRETsMրsFEMրsSUITABLEsEXCE",
    "LLгsPRINTsATեбsITEMsRESTsCOPYuRRECTsHIGHsCгREsLOWtEFTs|sMEDICINEsRELIGIONsSTUDYtUզVISEsгERP",
    "RISEsRESOURCEsЪIANCEsNIGHTiс Tօ ГxÛwìwÞpFORTYu ÍvÃwþvñwлvГwÛvìvÞqIFTYaIDEOмPHջTELEмPHζ FOR ",
    "JANUARY,FEBRUARY,MARCH,APRIL,MAY,JUNE/LY,AUGUST,SEPTEMBER,OCTOBER,NOVEMBER,DECEMBERaê HGhER",
    "GiVaLIMITвLIABILITY^aäD KATAKANA ArIrUrErOrKAsIsUsEsOrSAsIsUsEsOrTAsIsUsEsOrNAsIsUsEsOrHAsI",
    "sUsEsOrMAsIsUsEsOrYAsUsOrRAsIsUsEsOrWAsIsEsOaê ERA NAME REIWAhAPAATOiRUHUAiNPEAiARUhINеUjTI",
    "hUONhESUKUUDOiEKAAhONSUiOMUhKAIRIjRATTOkORIIhGARONjNMAiIGAjNIIhKYURIIhGIRUDAAhKIROlGURAMUlM",
    "EETORUlWATTOhGURAMUnTONhKURUZEIROkOÍiEESUiORUNAjOPOhSAIKURUjNTIIMUiIRеUiгIlOhDAASUiESIiORUh",
    "TONhNANOiOTTOhHAITUhPAASгOkTUhBAARERUhPIASUTORUjKURUkOhBIRUhHUARADDOjIITOhBUSSYERUhHURANiEK",
    "UTAARUhPESOjNIHIhHERUTUhPENSUjEZIhBEETAhPOINTOhBORUTOhHONhPONDOhHOORUkNhMAIKUROkRUjHHAjRUKU",
    "jNSYONiIKURONjRIlBAARUiEGAlTONjETORUhYAADOkRUiUANhRITTORUjRAiUPIIjUBURUiEMUjNTOGENhWATTOaID",
    "EOмPHջTELEмPHζ FOR HOUR ZERO<Í<Ã=þ<ñ=л<Г=Û<ì<Þ<ե<ELÛ<TWELVE=HIRTգ<ñTգ=IFTգ<ГTգ=ÛTգ<ìգ<ÞTգ<T",
    "WгY=WгY-Í=WгY-Ã=WгY-Tþ=WгY-ñaê HPAhDAhAUhBARhOVhPChDMj êDkCUBEDhIUhERA NAME HEISEIqSYOUWAqT",
    "AISYOUqMEIZIhCORPORAбhPA AMPShNAhMU AiAhKAiBhMBhGBhCALhKCALhPFhNFhMU FkGiGhKGhHZhKHZhMHZhGH",
    "ZhTHZhMU LiLhDLhKLhFMhNMhMU MiMhCMhKMhMM êDhCM êDhM êDhKM êDhMM CUBEDhCM CUBEDhM CUBEDhKM C",
    "UBEDhMüSp êDhPAhKPAhMPAhGPAhRADküSr êDhPShNShMU SiShPVhNVhMU ViVhKVhMV MEGAhPWhNWhMU WiWhKW",
    "hMW MEGAhK OHMhM OHMhAMhBQhCCiDiüKGiOhDBhGYhHAiPhINhKKiM >iThLMiNiOGiXhMB ?iILiOLhPHiMiPMiR",
    "hSRiVhWBhVüMhAüMaIDEOмPHջTELEмPHζ FOR DAY Í;Ã<þ;ñ<л;Г<Û;ì;Þ;ե;ELÛ;TWELVE<HIRTգ;ñTգ<IFTգ;ГTգ",
    "<ÛTգ;ìգ;ÞTգ;TWгY=гY-Í=гY-Ã=гY-Tþ=гY-ñ=гY-Fл=гY-Г=гY-SÛ=гY-ì=гY-Þ<օ=IRTY-Íaê GAL"]),
  (19904, ["aHEXAмM FOR ձ CREATл HEAVENrRECEPTл EARTHnDIFFICULTY AT ձ BEGINNеnYOUTHFUL FOLLYnWAI",
    "TеnCONFLICTnձ ARMYnHOLDаTOGEձRn? TAMеnTREADеnPEACEnSTДSTILLnFELLOWSHIPnGREAT POSSESSIONnMOD",
    "ESTYnгHUSIASMnFOLLOWеnWORK Шձ DECAYEDnAPPROACHnCONTEMPLAбnBITаTHROUGHnмCEnSPLITTаAPARTnRETU",
    "RNnINNOCENCEnGREAT TAMеnMOUTH էSnGREAT PREPONDERANCEnձ ABYSMиWAжrCLеаFIREnINFLUENCEnDURAбnR",
    "ETREATnGREAT POWERnPROGRESSnDARKENеûձ Énձ FAMILYnOPPOSIбoBSTRUCбnDELлRANCEpCREASEnINCREASEn",
    "BREAKTHROUGHnCOMаTO MEETnGAձRаTOGEձRnPUSHаUPWARDnOPPRESSIONnձ WELLnREVOLUбnձ CAULDRONrAROUS",
    "аTHUNDERrKEEPаSTILL MOUNTւnDEVELOPMгnձ MARRYаMAIDENnABUNDANCEnձ WДERERrGгLE WINDrJOYOUS LAK",
    "EnDISզSIONnLIMITAбnINNER TRUTHn? PREPONDERANCEnAFж COMPLEбnBEFORE COMPLEб"]),
  (40960, ["aYI չITnXnnPnEToXooPmATnXnnPmUOXooPmOTnXnnPmEXnmWUmBIToXooPoETpXppPnAToXooPnUOXppPnO",
    "ToXooPnEXooPnUToXooPoRXpnYToXooPoRXpmPIToXooPoEXppPnAToXooPnUOXppPnOToXooPnUToXooPoRXpnYToX",
    "ooPoRXpmBBITpXppPpETqXqqPoATpXppPoUOXqqPoOTpXppPoEXppPoUTpXppPpRXqoYTpXppPmNBITpXppPpEXqqPo",
    "ATpXppPoOTpXppPoUTpXppPpRXqoYTpXppPpRXqmHMITpXppPpEXqqPoATpXppPoUOXqqPoOTpXppPoUTpXppPpRXqo",
    "YXppPpRXqmMIToXooPoEXppPnAToXooPnUOTpXppPnOToXooPnEXonUToXooPoRXpnYToXooPmFIToXooPnAToXooPn",
    "OXooPnUToXooPoRXpnYToXooPmVIToXooPoETpXppPnAToXooPnOToXooPnEXoPnUToXooPoRXpnYToXooPoRXpmDIT",
    "oXooPoEXppPnAToXooPnUOXpnOToXooPnEXooPnUToXooPoRXpmTIToXooPoEXppPnAToXooPnUOTpXppPnOToXooPn",
    "EXooPnUToXooPoRXpmDDITpXppPpEXqqPoATpXppPoUOXqqPoOTpXppPoEXppPoUTpXppPpRXqmNDITpXppPpEXqoAT",
    "pXppPoOTpXppPoEXppPoUTpXppPpRXqmHNITpXppPpETqXqqPoATpXppPoUOXqoOTpXpPoEXppPoUTmNIToXooPoEXp",
    "pPnAXooPnUOXppPnOToXooPnEXooPnUToXooPoRXpmHLITpXppPpEXqqPoATpXppPoUOXqqPoOXppPoEXppPoUTpXpp",
    "PpRXqoYTpXppPpRXqmLIToXooPoETpXppPnAToXooPnUOTpXppPnOToXooPnEXooPnUToXooPoRXpnYToXooPoRXpmG",
    "IToXooPoETpXppPnAToXooPnUOTpXppPnOToXooPnEToXooPnUToXooPoRXpmKIToXooPoEXppPnAToXooPnUOXppPn",
    "OToXooPnEToXooPnUToXooPoRXpmGGITpXppEXqqPoATpXppPoUOTqXqqPoOTpXppPoETpXppPoUTpXppPpRXqmMGIE",
    "XqoATpXppPoUOXqqPoOTpXppPoEXppPoUTpXppPpRXqmHXITpXppPpETqXqqPoATpXppPoUOTqXqqPoOTpXppPoEXpp",
    "PmNGIEXqqPoATpXppPoUOTqXqoOTpXppPoEXppPmHIToEXpnAToXooPnUOTpXppPnOToXooPnEXooPmWAToXooPnUOX",
    "ppPnOXooPnEXooPmZIToXooPoEXppPnAToXooPnUOXppPnOToXooPnEXooPnUToXooPoRXpnYToXooPoRXpmCIToXoo",
    "PoETpXppPnAToXooPnUOXppPnOToXooPnEXooPnUToXooPoRXpnYToXooPoRXpmZZITpXppPpETqXqqPoATpXppPoOX",
    "ppPoEXppPoUXppPpRXqoYTpXppPpRXqmNZITpXppPpEXqqPoATpXppPoUOXqoOXpPoEXpoUXppPpRXqoYTpXppPpRXq",
    "mSIToXooPoEXppPnAToXooPnUOXppPnOToXooPnEXooPnUToXooPoRXpnYToXooPoRXpnSITpXppPpEXqqPoATpXppP",
    "oOTpXppPoEXppPoUTpXppPoYTpXppPpRXqmZHATpXppPoUOXqqPoOTpXppPoETpXppPoUTpXppPpRXqoYTpXppPpRXq",
    "mCHATpXppPoUOTqXqqPoOTpXppPoETpXppPoUXppPpRXqoYTpXppPpRXqmRRAXpoUOXqoOTpXppPoETpXppPoUTpXpp",
    "PpRXqoYTpXppPpRXqmNRATpXppPoOXppPoETpXppPoUTpXppPpRXqoYTpXppPpRXqmчTpXppPoUOXqqPoOTpXppPoET",
    "pXppPoUTpXppPpRXqoYTpXppPpRXqmRAToXooPnUOXppPnOToXooPnEXooPnUToXooPoRXpnYToXooPoRXpmJIToXoo",
    "PoETpXppPnUOTpXppPnOToXooPnUToXooPoRXpnYToXooPoRXpmQIToXooPoETpXppPnUOTpXppPnOToXooPnUToXoo",
    "PoRXpnYToXooPoRXpmJJITpXppPpETqXqqPoUOXqqPoOTpXppPoUTpXppPpRXqoYTpXppPmNJITpXppPpETqXqqPoUO",
    "XqoOTpXppPoUXppPpRXqoYTpXppPpRXqnYITpXppPpETqXqqPoUOXqqPoOTpXppPoUTpXppPmXIToXooPoETpXppPnU",
    "OXpnOToXooPnYToXooPoRXpmYIToXooPoETpXppPnUOTpXppPnOToXooPnUToXooPoRXpnYToXooPoRXp"]),
  (42128, ["aYI RADICиQOTlLIlKITlNYIPlCYPlSSIlGGOPmEPlMIlHXITlLYRlBBUTlMOPlYOlPUTlHXUOlTATlGAlZU",
    "PlCYTlDDURlBURlGGUOlNYOPlTUlOPlJJUTlZOTlPYTlHMOlYITlVURlSHYlVEPlZAlJOlNZUPlJJYlGOTlJJIElWOl",
    "DUlSHURlLIElCYmUOPmIPlHXOPlчTlZURlSHOPlCHElZZIETlNBIElKE"]),
  (42192, ["aLISU(BAmPAnHAmDAmTAnHAmGAmKAnHAmJAmCAnHAmDZAmTSAoHAmMAmNAmLAmSAmZHAnAmNGAmHAmXAmHHA",
    "mFAmWAmчmYAmGHAmAnEmEnUmImOmUnEnHmOEmTÍ MYA TIrNA POrMYA CYAvBOvNAvJEUfÀ ПrÎaVAI չEEpNnHEEn",
    "WEEqNnPEEnBHEEoEEnMBEEnKPEEnMGBEEnGBEEnFEEnVEEnTEEoHEEnDHEEpHEEnLEEnREEnDEEnNDEEnSEEoHEEnZE",
    "EoHEEnCEEnJEEnNJEEnYEEnKEEnNGGEEnGEEnMEEnNEEoYEEnIoNnHIpNnWIpNnPInBHIoInMBInKPInMGBInGBInFI",
    "nVInTIoHInDHIpHInLInRInDInNDInSIoHInZIoHInCInJInNJInYInKInNGGInGInMInNIoYInAoNnNGANnHApNnWA",
    "pNnPAnBHAoAnMBAnKPAqNnMGBAnGBAnFAnVAnTAoHAnDHApHAnLAnRAnDAnNDAnSAoHAnZAoHAnCAnJAnNJAnYAnKAp",
    "NnNGGAnGAnMAnNAoYAnOOpNnHOOnWOOqNnPOOnBHOOoOOnMBOOnKPOOnMGBOOnGBOOnFOOnVOOnTOOoHOOnDHOOpHOO",
    "nLOOnROOnDOOnNDOOnSOOoHOOnZOOoHOOnCOOnJOOnNJOOnYOOnKOOnNGGOOnGOOnMOOnNOOoYOOnUoNnHUpNnWUpNn",
    "PUnBHUoUnMBUnKPUnMGBUnGBUnFUnVUnTUoHUnDHUpHUnLUnRUnDUnNDUnSUoHUnZUoHUnCUnJUnNJUnYUnKUnNGGUn",
    "GUnMUnNUoYUnOoNnNGONnHOpNnWOpNnPOnBHOoOnMBOnKPOnMGBOnGBOqNnFOnVOnTOoHOnDHOpHOnLOnROnDOnNDOn",
    "SOoHOnZOoHOnCOnJOnNJOnYOnKOnNGGOnGOnMOnNOoYOnEoNnNGENnHEpNnWEpNnPEnBHEoEnMBEnKPEqNnMGBEnGBE",
    "qNnFEnVEnTEoHEnDHEpHEnLEnREnDEnNDEnSEoHEnZEoHEnCEnJEnNJEnYEnKEnNGGErNnGEpNnMEnNEoYEoGnLENGձ",
    "NEReПeÎeQUESбμeչNDOLE FAtKAtSOOgMBOL FգGlKգGlTеlNIIlBйlFAAlTAAlDйmOONGlKUNGlTONGlDO-OlJONGe",
    "ákÍkÃlþkñlлkГlÛkìkÞeչNDOLE MAtDO"]),
  (42560, ["aCYRILLջ>(ZEMLYAj?(ZEMLYAj>(DZELOj?(DZELOj>(éDZEj?(éDZEj>(Iքj?(Iքj>(DJERVj?(DJERVj>(",
    "MONOмPH UKj?(MONOмPH UKj>(BROAD OMEGAj?(BROAD OMEGAj>(NEUTRиYERj?(NEUTRиYERj>(YERU)BACK YER",
    "j?(YERU)BACK YERj>(IOTIFIвYATj?(IOTIFIвYATj>(éYUj?(éYUj>(IOTIFIвAj?(IOTIFIвAj>(CLOSвэ YUSj?",
    "(CLOSвэ YUSj>(BLENDвYUSj?(BLENDвYUSj>(IOTIFIвCLOSвэ YUSj?(IOTIFIвCLOSвэ YUSj>(YNj?(YNj>(éTS",
    "Ej?(éTSEj>(SOFT DEj?(SOFT DEj>(SOFT ELj?(SOFT ELj>(SOFT EMj?(SOFT EMj>(MONOCФOj?(MONOCФOj>(",
    "BINOCФOj?(BINOCФOj>(α MONOCФOj?(α MONOCФOjυMULTIOCФObOMBINаCYRILLջVZMETtե MILLIONS^tHUNDRвM",
    "ILLIONS^tTHOUSД MILLIONS^aSLAVONջASжISKaÈCYRILLIC(UKRւЦIE!I!YI!U!HARD^!YERU!SOFT^!OMEGAtKAV",
    "YKAtPAYEROKbYRILLջKAVYKAjPAYEROKj>(DWEj?(DWEj>(DZWEj?(DZWEj>(ZHWEj?(ZHWEj>(CCHEj?(CCHEj>(DZ",
    "ZEj?(DZZEj>(TE)ξÁj?(TE)ξÁj>(TWEj?(TWEj>(TSWEj?(TSWEj>(TSSEj?(TSSEj>(TCHEj?(TCHEj>(HWEj?(HWE",
    "j>(SHWEj?(SHWEj>(α Oj?(α Oj>(квOj?(квOaЗ(CYRILLջHARD^zSOFT^aÈCYRILLIC(EF!IOTIFIвEaBAMUM(AnK",
    "AnUnKUnEEnREEnTAEnOnNYInInLAnPAnRIIpEEnLEEEEnMEEEEnTAAnNDAAoJAEMnMnSUUnMUnSHIIoIoHEUXoEUXnK",
    "YEEoETnNUAEpoJUAEnYOQnSHUnYUQoAnNчnKEUXnPEUXnNJEEoTEEnPUEnWUEnPEEnFEEnRUnLUnMInNInREUXoAEnK",
    "ENnNGKWAENpGApAnSHOnPUAEnFUoOMnWAnNAnLInPInLOQnKOnMBENnRENnMENoAnTInKInMOoBAAnTETnKPAnեnNTU",
    "UnSAMBAnFAAMAEnKOVUUpGHOMgCOMBINеμ KOQNDONvTUKWгISgNJAEMLIgÎgCOLONiMMAgSEMICOLONgQUESбμ"]),
  (42752, ["aЗ(CHINESE TÍ YIN Pе&й Pе&IN SHй&й SHй&IN QU&й QU&IN RU&й RUqEXTRA-ыØTвTÍдqыØTвTÍдqM",
    "ID ØTвTÍдqВØTвTÍдqEXTRA-ВØTвTÍдwыØTвÝ-STEM TÍдqыØTвÝ-STEM TÍдqMID ØTвÝ-STEM TÍдqВØTвÝ-STEM ",
    "TÍдqEXTRA-ВØTвÝ-STEM TÍдwыÝ-STEM TÍдqыÝ-STEM TÍдqMID Ý-STEM TÍдqВÝ-STEM TÍдqEXTRA-ВÝ-STEM T",
    "ÍдqØ δдuSLЬuλдqô| է йLEqRAISвUP[xÐ[xEXCսAбμxðEXCսAбμqВðEXCսAбμqSTRESS]ыTÍ#ВTÍaя>(EGYPTOLOGI",
    "CиրFg?(EGYPTOLOGICиրFg>(EGYPTOLOGICиւg?(EGYPTOLOGICиւg>(HENGg?(HENGg>(TZg?(TZg>(TRESILLOg?(",
    "TRESILLOg>(CUATRILLOg?(CUATRILLOg>(CUATRILLO)Пg?(CUATRILLO)Пgυ? > F#Sg>(AAg?(AAg>(AOg?(AOg>",
    "(AUg?(AUg>(AVg?(AVg>(AV)λдg?(AV)λдg>(AYg?(AYg>(éC)Øg?(éC)Øg>(K)νg?(K)νg>(K)Риνg?(K)Риνg>(K)",
    "ν]Риνg?(K)ν]Риνg>(BROKEN Lg?(BROKEN Lg>(L)ыνg?(L)ыνg>(O)Аν OОLAYg?(O)Аν OОLAYg>(O)LOOPg?(O)",
    "LOOPg>(OOg?(OOg>(P)ν THROUGH Üg?(P)ν THROUGH Üg>(P)FLOURISHg?(P)FLOURISHg>(P)SQUIRREL Щg?(P",
    ")SQUIRREL Щg>(Q)ν THROUGH Üg?(Q)ν THROUGH Üg>(Q)Риνg?(Q)Риνg>(R ROTUNDAg?(R ROTUNDAg>(RUM R",
    "OTUNDAg?(RUM ROTUNDAg>(V)Риνg?(V)Риνg>(VYg?(VYg>(VISIGOTHջZg?(VISIGOTHջZg>(THORN)νg?(THORN)",
    "νg>(THORN)ν THROUGH Üg?(THORN)ν THROUGH Üg>(VENDg?(VENDg>(ETg?(ETg>(ISg?(ISg>(CONg?(CONaЗ(U",
    "Saя?(DUMtLUMtMUMtNUMtRUMgυ? > RUMg?(TUMtUMg>(INSФDg?(INSФDg>(INSФFg?(INSФFg>(INSФGvöINSФGg?",
    "(öINSФGg>(öLg?(öLg>(INSФRg?(INSФRg>(INSФSg?(INSФSg>(INSФTg?(INSФTaЗ(Вω ACCгqCOLONqИ աS^aя>(",
    "SALTILLOg?(SALTILLOg>(öHg?(L)í]BELTgυSINOLOGICиØg>(N)Üg?(N)Üg>(C)BARg?(C)BAR!PALATиÁtH)PALA",
    "TиÁg>(B)FLOURISHg?(B)FLOURISHg>(F)νg?(F)νg>(VOLAPUK AEg?(VOLAPUK AEg>(VOLAPUK OEg?(VOLAPUK ",
    "OEg>(VOLAPUK UEg?(VOLAPUK UEg>(G)OBLIQUE νg?(G)OBLIQUE νg>(K)OBLIQUE νg?(K)OBLIQUE νg>(N)OB",
    "LIQUE νg?(N)OBLIQUE νg>(R)OBLIQUE νg?(R)OBLIQUE νg>(S)OBLIQUE νg?(S)OBLIQUE νg>(H)ÁvéЕEvтGv",
    "L)BELTv? > Igυ? > Qg>(öK$TvJ)кED-ЩvCHIvBETAg?(BETAg>(OMEGAg?(OMEGAg>(U)νg?(U)νg>(GLOTTиAg?(",
    "GLOTTиAg>(GLOTTиIg?(GLOTTиIg>(GLOTTиUg?(GLOTTиUg>(ոPOLISH Og?(ոPOLISH Og>(йLICANA Wg?(йLICA",
    "NA Wg>(C)PALATиÁvS)ÁvZ)PALATиÁvD)И ν OОLAYg?(D)И ν OОLAYg>(S)И ν OОLAYg?(S)И ν OОLAY"]),
  (42960, ["aя>(CLOSвINSФGg?(CLOSвINSФG"]),
  (42963, ["aя?(α THORN"]),
  (42965, ["aя?(α WYNNg>(ξSCOTS Sg?(ξSCOTS Sg>(SIGMOID Sg?(SIGMOID S"]),
  (42994, ["aЗ(> CyFyQaя>(éÌHg?(éÌHgEPIмPHIC(կWAYS IaЗ(> H)νq? LюOEaLATIN(? > öMgEPIмPHIC(éF,Pyð",
    "Mz LONGAyլC MaSYLOTI NAGRI(AuInÖDVISVARAnυUuEuOnÖHASANTAnυKOvHOuGOvHOnÖÓnυCOvHOuJOvHOuTTOwH",
    "OuDDOwHOuTOvHOuDOvHOuNOuPOvHOuBOvHOuMOuROuLOuRROuSOuHOnò^ AyIyUyEyOOnPOETRYμ-1z2z3z4nÖALжNA",
    "TE HASANTA"]),
  (43056, ["aNORTH INDջFRACб Í QUARжzHALFvTþ QUARжSvÍ ГTEгHzìHvTþ ГTEгHSmQUARжμmPLACEHOLDERμmRUP",
    "EEμmQUANTITYμ"]),
  (43072, ["aPHAGS-PA(KArHAqGAqNGAqCArHAqJAqNYAqTArHAqDAqNAqPArHAqBAqMAqTSAsHAqDZAqWAqZHArAq? Aq",
    "YAqRAqLAqчrAqHAqAqIqUqEqOqQAqXAqFAqGGAqEEjSUBJOINED(WA!YAjυTTAsHAqDDAqNNAqALжNATE YAqVOICEL",
    "ESS чvD HAqASPIRATвFAjSUBJOINED(RAlզFIXED(RAjυцjSеLE хμjα хμjMARK чDoα чD"]),
  (43136, ["aSAURЬTRA^ ÓqКlυAtAsItIsUtUsÂR#R!L#LsEtEsAIsOtOsAUsKAtHAsGAtHAsNGAsCAtHAsJAtHAsNYAsT",
    "TAuHAsDDAuHAsNNAsTAtHAsDAtHAsNAsPAtHAsBAtHAsMAsYAsRAsLAsVAsчtSAtAsHAsLLAlդ^ HAARUlò^ AAwIxI",
    "wUxUwÂR*R&L*LwExEwAIwOxOwAUlÖռqц"]),
  (43214, ["aSAURЬTRA DДAmOUBLE DДAmIGIT ZEROrÍrÃsþrñsлrГsÛrìrÞ"]),
  (43232, ["aÈDEVANAGARI á#Í#Ã$þ#ñ$л#Г$Û#ì#ÞvυA$U$KA$NA$PA$RA$VIvÖAVAмHAaDEVANAGARI^ SPACацqц ռq",
    "α ц ռqц Ã%þ$AVAмHAqPUSHPIKAlGAP FILLERlCARETlхνlÖSIDDHAMlJւ OMlυAYlò^ AYaKAYAH LI ápÍpÃqþpñ",
    "qлpГqÛpìpÞjυKArHAqGAqNGAqSArHAqZAqNYAqTAqHTAqNAqPArHAqMAqDAqBAqRAqYAqLAqWAqTHAqHAqVAqCAqAqO",
    "EqIqOOjò UEpEpUpEEpOjTÍ PLOPHUoCALYAt PLOPHUjÖCWIoSHYAaREJй(KAoGAoNGAoTAoDAoNAoPAoBAoMAoCAo",
    "JAoNYAoSAoRAoLAoYAoWAoHAoMBAoNGGApDApYJAoAhò^ IsUsEsAIsOsAUsEUtAhդ^ NGxwRwHhռ"]),
  (43359, ["aREJй SECбμaHйUL CHOSEONG ը-MзMxPзPxիxCзCqRзL-МwSSйМwըwSSйըwMзMwPзPwSSйPзPwKAPYEOUNP",
    "зPwիwCзCwKHзKHqMзM-МwըwիqPзP-ի-THзTHwKHзKHwHзHqSSйի-PзPqзNG-RзLwHзHqSSйCзC-HзHvTHзTHqPHзPH-",
    "HзHqHзH-իqSSйYEORINHзH"]),
  (43392, ["aJAVANESE^ PANYйGAoCECAKoLAYARoWIGNYANjυAqI KAWIrrIqUqPA CEREKqNGA LELETz RASWADIqEq",
    "AIqOqKAs SASAKtMURDAqGAs MURDAqNGAqCAs MURDAqJAqNYA MURDAqJA MAHAPRANAqNYAqTTAt MAHAPRANAqD",
    "DAt MAHAPRANAqNA MURDAqTAs MURDAqDAs MAHAPRANAqNAqPAs MURDAqBAs MURDAqMAqYAqRAs AGUNGqLAqWA",
    "qSA MURDAuAHAPRANAsqHAjÖCECAK TELUjò^ TARUNGvOLONGuWULUy MELIKuSUKUy MENDUTuTALеuDIRGA MURE",
    "uPEPETjդ^ KERETyPENGKALyCAKRAjPйKONjθRERENGGANj| RERENGGANjPADA ДAPoMADYAoLUHURoWINDUoPйKAT",
    "oLеSApUNGSIoADEGs ADEGoPISELEHjöPADA PISELEH"]),
  (43471, ["aJAVANESE PйRйKEPjápÍpÃqþpñqлpГqÛpìpÞ"]),
  (43486, ["aJAVANESE PADA TIRTA TUMETESoISEN-ISENaMYANMAR(чN GHAuCHAuJHAuNNAuBHAiÖчN SAWiЗ(чN R",
    "EDUPLICAбiυTAI LAаNYAzFAzGA!HAzJA!HAzDDA#HAzNNAiTAI LAаáyÍyÃzþyñzлyГzÛyìyÞiυTAI LAаLLAzDA!H",
    "AzBA!HA"]),
  (43520, ["aCHAM(AmImUmEmAImOmKAnHAmGAnHAmNGUEoAmCHAoHAmJAnHAmNHUEoAoJAmTAnHAmDAnHAmNUEnAmDDAmP",
    "AnPAnHAmBAnHAmMUEnAmBBAmYAmRAmLAmVAmSSAnAmHAfò^ AAqIrIqEIqUqOErqAIrUqUEfդ^ YAuRAuLAuWA"]),
  (43584, ["aCHAM(ι KsGsNGfդ^ ι NGfυι CHsTsNsPsYsRsLsSSfդ^ ι M!H"]),
  (43600, ["aCHAM álÍlÃmþlñmлlГmÛlìlÞ"]),
  (43612, ["aCHAM À SPIRALrDДAsOUBLE DДArЖDДAaMYANMAR(KHAMTI GAwCAxHAwJAxHAwNYAwTTAyHAwDDAyHAxHA",
    "wNAwSAwHAxHAwFAiЗ(KHAMTI REDUPLICAбiυKHAMTI XAwZAwRAjOGOмM KHAMTI OAYyQNyHMiSYMBOL AITШEXCս",
    "AбvÍvÃiυAITШRAiÖPAO KAREN TÍnTAI LAаTÍ-2$5iυSHWE PALAUNG CHA$чaTAI VIET(ВKOqыKOqВKHOqыKHOqВ",
    "KHHOqыKHHOqВGOqыGOqВNGOqыNGOqВCOqыCOqВCHOqыCHOqВSOqыSOqВNYOqыNYOqВDOqыDOqВTOqыTOqВTHOqыTHOq",
    "ВNOqыNOqВBOqыBOqВPOqыPOqВPHOqыPHOqВFOqыFOqВMOqыMOqВYOqыYOqВROqыROqВLOqыLOqВVOqыVOqВHOqыHOqВ",
    "OqыOjMAI Kйjò AApIpUEqpEpOjMAI KHITjò IApUEAqApAUEqYqNqMjTÍ MAI EKsNUENGsTHOsSONG"]),
  (43739, ["aTAI VIETζ KONqNUENGqSAMqHO HOIqKOI KOIaMEETEI MAYEK(EuOuCHAuNYAuTTAwHAuDDAwHAuNNAuч",
    "vSAnò^ IIyUUyAAIzUzAUnCHEIKHANnAHй KHUDAMoNJInչREPETIбμnWORD REPETIбμnò^ КoIRAMA"]),
  (43777, ["aåTTHUvIvAAvEEwvO"]),
  (43785, ["aåDDHUvIvAAvEEwvO"]),
  (43793, ["aåDZUuIuAAuEEvuO"]),
  (43808, ["aåCCHHAwUwIwAAwEExwO"]),
  (43816, ["aåBBAuUuIuAAuEEvuO"]),
  (43824, ["aя?(BARRвALPHAtA REОSED-SCHWAtρυEuARRвEtE)FLOURISHtLENIS FtтG)кED-ЩtL)ðLAZY S!α ξÏ!ξ",
    "RеtM)кED-ЩtN)кED-ЩtENG)кED-ЩtρυO+)νtЕO)νtðOEtöOE)ν.λ ν# OPEN-O.)νtSTIRRUP Rgυ? > R)| LEGg?(",
    "R WITHOUT HДLEtα RtR)кED-Щtα R)кED-ЩtтR#)RеtBASEо ESHtU)И | LEGvBAR)И | LEGuItöUItU)θÁtCHIw",
    ")В| Rе+θSERIFtX)В| Rе$NG θLEG=]В| Rе=)SERIFtY)И | LEGaЗ Х)ðХjυ? HENGwL)ðLAZY S%ξÏwU)θÁaя?(S",
    "AKHA YATtIOTIFIвEtЕOEtUOtðALPHAaУK(? > OMEGAaя?(DZ DIмPH)ítTS DIмPH)íuURNвR)ξÏaЗ(? öWqθTACK",
    "q| TACK"]),
  (43888, ["aCHEROKEE ?(AwEwIwOwUwVwGAwKAwGExIxOxUxVwHAxExIxOxUxVwLAxExIxOxUxVwMAxExIxOxUwNAwHNA",
    "wNAHxExIxOxUxVwQUAyEyIyOyUyVwSAxxExIxOxUxVwDAwTAwDEwTEwDIwTIwDOxUxVxLAwTLAyEyIyOyUyVxSAyEyI",
    "yOyUyVwWAxExIxOxUxVwYAaMEETEI MAYEK(KOKuSAMuLAIuMITuPAuNAuCHILuTILuKHOUuNGOUuTHOUuWAIuYйuHU",
    "KuUNuIuPHAMuATIYAuGOKuJHAMuRAIuBAuJILuDILuGHOUuDHOUuBHAMuKOK LONSUMuLAI LONSUMuMIT LONSUMuP",
    "A LONSUMuNA LONSUMuTIL LONSUMuNGOU LONSUMuI LONSUMnò^ ONAPyINAPyANAPyYENAPySOUNAPyUNAPyCHEI",
    "NAPyNUNGnCHEIKHEInLUM IYEKnAPUN IYEK"]),
  (44016, ["aMEETEI MAYEK átÍtÃuþtñuлtГuÛtìtÞ"]),
  (55216, ["aHйUL JUNGSEONG O-YEOtO-IrYO-AvEuEOrU-YEOtI-IrYU-AEuOrEU-AuEOvuOrI-YA-OvEuEOvtO-ItYO",
    "uUtIrARAEA-AxE"]),
  (55243, ["aHйUL JONGSEONG NзN-RзLxCHзCHrSSйը$-PзPrը-PзPyի$-МyCзCzHзCHyTHзTHrRзL-SSйМxМ-HзHrSSй",
    "RзL-KHзKHrRзL-MзM-HзHxPзP-ը%PHзPHxYESзNGzORINHзH-HзHrKAPYEOUNRзLrMзM-NзNxSSйNзNrSSйMзMrMзM-",
    "PзP-իxCзCrPзP-ըxRзL-PHзPHxMзMrSSйPзPrPзP-ի-ըxCзCyHзCHrի-MзMwKAPYEOUNPзPsSйի-М#ըsIOS-PANիwCз",
    "CxHзCHwTHзTHwHзHrPANի-PзPzKAPYEOUNPзPrYESзNG-MзM!HзHrCзC-PзPxSSйPзPrSSйCзCrPHзPH-իzTHзTH"]),
  (63744, ["aCJK COMPATIBILITY IDEOмPH-F900*1*2*3*4*5*6*7*8*9*A*B*C*D*E*F&10*1*2*3*4*5*6*7*8*9*A",
    "*B*C*D*E*F&20*1*2*3*4*5*6*7*8*9*A*B*C*D*E*F&30*1*2*3*4*5*6*7*8*9*A*B*C*D*E*F&40*1*2*3*4*5*6",
    "*7*8*9*A*B*C*D*E*F&50*1*2*3*4*5*6*7*8*9*A*B*C*D*E*F&60*1*2*3*4*5*6*7*8*9*A*B*C*D*E*F&70*1*2",
    "*3*4*5*6*7*8*9*A*B*C*D*E*F&80*1*2*3*4*5*6*7*8*9*A*B*C*D*E*F&90*1*2*3*4*5*6*7*8*9*A*B*C*D*E*",
    "F&A0*1*2*3*4*5*6*7*8*9*A*B*C*D*E*F&B0*1*2*3*4*5*6*7*8*9*A*B*C*D*E*F&C0*1*2*3*4*5*6*7*8*9*A*",
    "B*C*D*E*F&D0*1*2*3*4*5*6*7*8*9*A*B*C*D*E*F&E0*1*2*3*4*5*6*7*8*9*A*B*C*D*E*F&F0*1*2*3*4*5*6*",
    "7*8*9*A*B*C*D*E*F%A00*1*2*3*4*5*6*7*8*9*A*B*C*D*E*F&10*1*2*3*4*5*6*7*8*9*A*B*C*D*E*F&20*1*2",
    "*3*4*5*6*7*8*9*A*B*C*D*E*F&30*1*2*3*4*5*6*7*8*9*A*B*C*D*E*F&40*1*2*3*4*5*6*7*8*9*A*B*C*D*E*",
    "F&50*1*2*3*4*5*6*7*8*9*A*B*C*D*E*F&60*1*2*3*4*5*6*7*8*9*A*B*C*D"]),
  (64112, ["aCJK COMPATIBILITY IDEOмPH-FA70*1*2*3*4*5*6*7*8*9*A*B*C*D*E*F&80*1*2*3*4*5*6*7*8*9*A",
    "*B*C*D*E*F&90*1*2*3*4*5*6*7*8*9*A*B*C*D*E*F&A0*1*2*3*4*5*6*7*8*9*A*B*C*D*E*F&B0*1*2*3*4*5*6",
    "*7*8*9*A*B*C*D*E*F&C0*1*2*3*4*5*6*7*8*9*A*B*C*D*E*F&D0*1*2*3*4*5*6*7*8*9"]),
  (64256, ["aя? LюFFwIwLwFIxLvАS TvST"]),
  (64275, ["aARMENЦ? LюMEN NOW$ECH$INIyVEW NOWyMEN XEH"]),
  (64285, ["aHEBREW(YOD)HIRIQhPOINT JUDEO-SPANISH VARIKAhLюYIDDISH YOD YOD PATAHiETж ALжNATл AYI",
    "NoWIDE րFtDրTtHEtKAFtսEDtι MEMtRESHtTAVoALжNATл PLUS^oSHIN)SHIN ØzIN ØyDAGESH]SHIN Ø:IN Øoր",
    "F)PATAHyQAMATSyMAPIQoBET)DAGESHoGIMEL)DAGESHoDրT)DAGESHoHE)MAPIQoVAV)DAGESHoZAYIN)DAGESH"]),
  (64312, ["aHEBREW(TET)DAGESHoYOD)DAGESHoι KAF)DAGESHoKAF)DAGESHoսED)DAGESH"]),
  (64318, ["aHEBREW(MEM)DAGESH"]),
  (64320, ["aHEBREW(NUN)DAGESHoSAMEKH)DAGESH"]),
  (64323, ["aHEBREW(ι PE)DAGESHoPE)DAGESH"]),
  (64326, ["aHEBREW(TSADI)DAGESHoQOF)DAGESHoRESH)DAGESHoSHIN)DAGESHoTAV)DAGESHoVAV)HOսoBET)RAFEo",
    "KAF)RAFEoPE)RAFEiюրF սEDaф(րF WASLA~@zι@oBEEH~@tι@tη@tÿ@oPEH~@sι@sη@sÿ@oBEHEH~@uι@uη@uÿ@oTT",
    "EHEH~@vι@vη@vÿ@pEHEH~@uι@uη@uÿ@pTEH~@tι@tη@tÿ@oVEH~@sι@sη@sÿ@oPEHEH~@uι@uη@uÿ@oDց~@tι@tη@tÿ",
    "@oNց~@tι@tη@tÿ@oTCHEH~@uι@uη@uÿ@tEH~@wι@wη@wÿ@oDDAHAL~@vι@pAHAL~@uι@pUL~@sι@pDAL~@tι@oJEH~@",
    "sι@oRREH~@tι@oKEHEH~@uι@uη@uÿ@oGAF~@sι@sη@sÿ@pUEH~@tι@tη@tÿ@oNGOEH~@uι@uη@uÿ@pOШGHUNNA~@!ι@",
    "oRNOON~@uι@uη@uÿ@oHEH)ց_~@,ι@sGOAL~@xι@xη@xÿ@sDOACHЬMEE~@&ι@&η@&ÿ@oցдREE~@zι@zWITH HAMZA_~@",
    "=VE ι@hSYMBOL Ø_sBELOWoÃÄ_xBELOWpþÄ_zBELOWzκ τ_=ARDSγoñÄ_yBELOWoα δдγoÃÄ δLY_.BELOWoRеo? TA",
    "H_yBELOWoWASLA_"]),
  (64467, ["aф(NG~@rι@rη@rÿ@oU~@qι@oOE~@rι@oYU~@rι@oU)HAMZA_~@oVE~@rι@oKIRGHIZ OE~@zι@wYU~@zι@oE",
    "~@qι@qη@qÿ@oUIGHUR KAZAKH KIRGHIZ χ η@=F MAKSURA ÿ@iюց)HAMZA_)րF~@=TH րF ι@=TH AE~@=TH AE ι",
    "@=TH WAW~@=TH WAW ι@=TH U~@=TH U ι@=TH OE~@=TH OE ι@=TH YU~@=TH YU ι@=TH E~@=TH E ι@=TH E η",
    "@qUIGHUR KIRGHIZ ց)HAMZA_)χ~@= HAMZA_)χ ι@= HAMZA_)χ η@iETж FARSI ց~@yι@yη@yÿ@iюց)HAMZA_)Ы~",
    "@=TH ժ~@=TH Ò~@=TH χ~@=TH ց~@qBEH)Ы~@zժ~@zKժ~@zÒ~@zχ~@zց~@qTEH)Ы~@zժ~@zKժ~@zÒ~@zχ~@zց~@rHEH",
    ")Ы~@!Ò~@!χ~@!ց~@qЫ)ժ~@!Ò~@qժ)Ы~@zÒ~@qKժ)Ы~@!ժ~@!Ò~@qSգ)Ы~@!ժ~@!Kժ~@!Ò~@rAD)ժ~@zÒ~@qDAD)Ы~@z",
    "ժ~@zKժ~@zÒ~@qTAH)ժ~@zÒ~@qZAH)Ò~@qւ)Ы~@zÒ~@qGHւ)Ы~@#Ò~@qFEH)Ы~@zժ~@zKժ~@zÒ~@zχ~@zց~@qQAF)ժ~@",
    "zÒ~@zχ~@zց~@qKAF)րF~@zЫ~@zժ~@zKժ~@zս~@zÒ~@zχ~@zց~@qս)Ы~@zժ~@zKժ~@zÒ~@zχ~@zց~@qÒ)Ы~@!ժ~@!Kժ~",
    "@!Ò~@!χ~@!ց~@qNOON)Ы~@!ժ~@!Kժ~@!Ò~@!χ~@!ց~@qHEH)Ы~@zÒ~@zχ~@zց~@qց)Ы~@zժ~@zKժ~@zÒ~@zχ~@zց~@q",
    "THAL)SUզтրF~@qREH)SUզтրF~@qχ)SUզтրF~@qчDDA)DAMMATAN~@$KASRATAN~@$FATHA~@$DAMMA~@$KASRA~@$SU",
    "զтրF~@qց)HAMZA_)REH ι@=TH Zւ ι@=TH Ò ι@=TH NOШι@=TH χ ι@=TH ց ι@qBEH)REH ι@zZւ ι@zÒ ι@zNOШι",
    "@zχ ι@zց ι@qTEH)REH ι@zZւ ι@zÒ ι@zNOШι@zχ ι@zց ι@rHEH)REH ι@!Zւ ι@!Ò ι@!NOШι@!χ ι@!ց ι@qFEH",
    ")χ ι@zց ι@qQAF)χ ι@zց ι@qKAF)րF ι@zս ι@zÒ ι@zχ ι@zց ι@qս)Ò ι@zχ ι@zց ι@qÒ)րF ι@!Ò ι@qNOON)R",
    "EH ι@!Zւ ι@!Ò ι@!NOШι@!χ ι@!ց ι@qχ)SUզтրF ι@qց)REH ι@zZւ ι@zÒ ι@zNOШι@zχ ι@zց ι@zHAMZA_)Ы η",
    "@=TH ժ η@=TH Kժ η@=TH Ò η@=TH HEH η@qBEH)Ы η@zժ η@zKժ η@zÒ η@zHEH η@qTEH)Ы η@zժ η@zKժ η@zÒ ",
    "η@zHEH η@rHEH)Ò η@qЫ)ժ η@!Ò η@qժ)Ы η@zÒ η@qKժ)Ы η@!Ò η@qSգ)Ы η@!ժ η@!Kժ η@!Ò η@rAD)ժ η@zKժ ",
    "η@zÒ η@qDAD)Ы η@zժ η@zKժ η@zÒ η@qTAH)ժ η@qZAH)Ò η@qւ)Ы η@zÒ η@qGHւ)Ы η@#Ò η@qFEH)Ы η@zժ η@z",
    "Kժ η@zÒ η@qQAF)ժ η@zÒ η@qKAF)Ы η@zժ η@zKժ η@zս η@zÒ η@qս)Ы η@zժ η@zKժ η@zÒ η@zHEH η@qÒ)Ы η@",
    "!ժ η@!Kժ η@!Ò η@qNOON)Ы η@!ժ η@!Kժ η@!Ò η@!HEH η@qHEH)Ы η@zÒ η@zSUզтրF η@qց)Ы η@zժ η@zKժ η@",
    "zÒ η@zHEH η@!AMZA_)Ò ÿ@=TH HEH ÿ@qBEH)Ò ÿ@zHEH ÿ@qTEH)Ò ÿ@zHEH ÿ@rHEH)Ò ÿ@!HEH ÿ@qSգ)Ò ÿ@!H",
    "EH ÿ@rHգ)Ò ÿ@#HEH ÿ@qKAF)ս ÿ@zÒ ÿ@qս)Ò ÿ@qNOON)Ò ÿ@!HEH ÿ@qց)Ò ÿ@zHEH ÿ@qчDDA)FATHA ÿ@$DAMM",
    "A ÿ@$KASRA ÿ@qTAH)χ~@zց~@qւ)χ~@zց~@qGHւ)χ~@#ց~@qSգ)χ~@!ց~@rHգ)χ~@#ց~@qժ)χ~@zց~@qЫ)χ~@!ց~@qK",
    "ժ)χ~@!ց~@qSAD)χ~@zց~@qDAD)χ~@zց~@qSHգ)Ы~@#ժ~@#Kժ~@#Ò~@#REH~@rգ)REH~@rAD)REH~@qDAD)REH~@qTAH",
    ")χ ι@zց ι@qւ)χ ι@zց ι@qGHւ)χ ι@#ց ι@qSգ)χ ι@!ց ι@rHգ)χ ι@#ց ι@qժ)χ ι@zց ι@qЫ)χ ι@!ց ι@qKժ)χ",
    " ι@!ց ι@qSAD)χ ι@zց ι@qDAD)χ ι@zց ι@qSHգ)Ы ι@#ժ ι@#Kժ ι@#Ò ι@#REH ι@rգ)REH ι@rAD)REH ι@qDAD",
    ")REH ι@qSHգ)Ы η@#ժ η@#Kժ η@#Ò η@rգ)HEH η@rHգ)HEH η@qTAH)Ò η@qSգ)Ы ÿ@!ժ ÿ@!Kժ ÿ@rHգ)Ы ÿ@#ժ ÿ",
    "@#Kժ ÿ@qTAH)Ò ÿ@qZAH)Ò ÿ@qրF)FATHATAN ι@/ISOLATED@aORNATE θúh| úaф LюRAHIMAHU ЪAAHsDI ЪAAHU",
    " ANH+AA+UM.AA,NNAqSЪЪAAHU ALAYHI WA-AALIHqALAYHI AS-SALAAMwM AS-SALAAMxAA AS-SALAAMw AS-SAL",
    "AATU WAS-SALAAMqQUDDISA SIRRAHqSЪЪAHU ALAYHI WAAALIHEE WA-SЪAMqALAYHAA AS-SALAAMqTABAARAKA ",
    "WA-TAAALAAqRAHIMAHUM ЪAAHqTEH)Ы)Ò η@zժ)Ы ι@=η@.Ò η@zKժ)Ò η@zÒ)Ы η@/ժ η@/Kժ η@qЫ)Ò)ժ ι@= η@q",
    "ժ)Ò)ց ι@/χ ι@qSգ)ժ)Ы η@!Ы)ժ η@:χ ι@!Ò)ժ ι@= η@:Ы η@:Ò ι@=M η@rAD)ժ)ժ ι@<η@zÒ)Ò ι@rHգ)ժ)Ò ι@",
    "=M η@#Ы)ց ι@#Ò)Kժ ι@=AH η@;Ò ι@=EM η@qDAD)ժ)χ ι@zKժ)Ò ι@= η@qTAH)Ò)ժ ι@=η@/Ò η@/ց ι@qւ)Ы)Ò ",
    "ι@zÒ)Ò ι@= η@/χ ι@qGHւ)Ò)Ò ι@;ց ι@;χ ι@qFEH)Kժ)Ò ι@= η@qQAF)Ò)ժ ι@/Ò ι@qս)ժ)Ò ι@.ց ι@.χ ι@z",
    "Ы)Ы η@= ι@zKժ)Ò ι@= η@zÒ)ժ ι@=η@qÒ)ժ)Ы η@/Ò η@/ց ι@!Ы)ժ η@:Ò η@!Kժ)Ы η@:Ò η@"]),
  (64914, ["aф LюÒ)Ы)Kժ η@qHEH)Ò)Ы η@/Ò η@qNOON)ժ)Ò η@/χ ι@!Ы)Ò ι@=M η@:χ ι@!Ò)ց ι@:χ ι@qց)Ò)Ò ι",
    "@= η@qBEH)Kժ)ց ι@qTEH)Ы)ց ι@/χ ι@zKժ)ց ι@/χ ι@zÒ)ց ι@/χ ι@qЫ)Ò)ց ι@!ժ)χ ι@!Ò)χ ι@qSգ)Kժ)χ ι",
    "@rAD)ժ)ց ι@rHգ)ժ)ց ι@qDAD)ժ)ց ι@qս)Ы)ց ι@zÒ)ց ι@qց)ժ)ց ι@zЫ)ց ι@zÒ)ց ι@qÒ)Ò)ց ι@qQAF)Ò)ց ι@",
    "qNOON)ժ)ց ι@qQAF)Ò)ժ η@qս)ժ)Ò η@qւ)Ò)ց ι@qKAF)Ò)ց ι@qNOON)Ы)ժ η@qÒ)Kժ)ց ι@qս)Ы)Ò η@qKAF)Ò)Ò",
    " ι@qս)Ы)Ò ι@qNOON)Ы)ժ ι@qЫ)ժ)ց ι@qժ)Ы)ց ι@qÒ)Ы)ց ι@qFEH)Ò)ց ι@qBEH)ժ)ց ι@qKAF)Ò)Ò η@qւ)Ы)Ò ",
    "η@qSAD)Ò)Ò η@rգ)Kժ)ց ι@qNOON)Ы)ց ι@"]),
  (64975, ["aф LюSALAAMUHU ALAYNAA"]),
  (65008, ["aф LюSЪA USвAS KORANջSTOP^~@qQALA USвAS KORANջSTOP^~@qЪAH~@rKBAR~@qMOHAMMAD~@qSAս~@q",
    "RASOUL~@qALAYHE~@qWASЪAM~@qSЪA~@vLLAHOU ALAYHE WASЪAMqJЪAJALALOUHOUaRIAL^aф LюBISMILLAH AR-",
    "RAHMAN AR-RAHEEMqSUBHAANAHU WA TAAALAAqAZZA WA JЪaпб SELECTOR-1t2t3t4t5t6t7t8t9t10u1u2u3u4u",
    "5u6aPRESгAб@ FOR δ П*IDEOмPHջП=HջÎ*COLON*SEMICOLON*EXCսAбμ*QUESбμ*θσLгICULARπ*| σLгICФBRAKC",
    "ET*λ ELLIPSIS"]),
  (65056, ["aÈLюθHALFt| HALFkα Ï θHALFx| HALFkÚ θHALFr| HALFkCONJOINаÚkLюθHALFγt| HALFγkÏ θHALFγ",
    "q| HALFγkÚ θHALFγr| HALFγkCONJOINаÚγlYRILLջTITLO θHALFz| HALFaPRESгAб@ FOR δ Ã Ø LEADER*EM ",
    "DЬ+N DЬ*Во*WAVY Во*θú*| ú*θCURLYπ*| CURLYπ*θБπ*| Бπ*θρ LгICULARπ*| ρ LгICULARπ*θα йLEπ*| α ",
    "йLEπ*θйLEπ*| йLEπ*θէπ*| էπ*θσէπ*| σէπaSESAME ØaσSESAME ØaPRESгAб@ FOR δ θêπ*| êπaDЬвOОоaCгR",
    "Eо OОоaWAVY OОоaα WAVY OОоbЬвВоaCгREо ВоaWAVY Воa? ПgIDEOмPHջПgÎ"]),
  (65108, ["a? SEMICOLONgCOLONgQUESбμgEXCսAбμhM DЬgθúg| úgθCURLYπg| CURLYπgθБπg| Бπgс^gAMզSДhSжI",
    "SKgPLUS^gHYPHEN-MINUSgó^gã^gաS^"]),
  (65128, ["a? REОSE SOLIDUSgDOLLAR^gզCг^gCOMMERCIиAT"]),
  (65136, ["aф FATHATAN~@hTATWEEL)FATHATAN_hDAMMATAN~@hЩ FRAGMгhKASRATAN~@"]),
  (65142, ["aф FATHA~@nÿ@hDAMMA~@nÿ@hKASRA~@nÿ@hчDDA~@oÿ@iUKUN~@nÿ@hυHAMZA~@oրF)MADDA_~@:ι@yHAMZ",
    "A_~@:ι@oWAW)HAMZA_~@/ι@oրF)HAMZAγ~@:ι@oց)HAMZA_~@/ι@/η@/ÿ@oրF~@tι@oBEH~@sι@sη@sÿ@oTEH MARBU",
    "TA~@!ι@sISOLATED@sι@sη@sÿ@pHEH~@tι@tη@tÿ@oЫ~@tι@tη@tÿ@oժ~@sι@sη@sÿ@oKժ~@tι@tη@tÿ@oDAL~@sι@o",
    "THAL~@tι@oREH~@sι@oZւ~@tι@oSգ~@tι@tη@tÿ@pHգ~@uι@uη@uÿ@pAD~@sι@sη@sÿ@oDAD~@sι@sη@sÿ@oTAH~@sι",
    "@sη@sÿ@oZAH~@sι@sη@sÿ@oւ~@sι@sη@sÿ@oGHւ~@uι@uη@uÿ@oFEH~@sι@sη@sÿ@oQAF~@sι@sη@sÿ@oKAF~@sι@sη",
    "@sÿ@oս~@sι@sη@sÿ@oÒ~@tι@tη@tÿ@oNOON~@tι@tη@tÿ@oHEH~@sι@sη@sÿ@oWAW~@sι@oχ~@#ι@oց~@sι@sη@sÿ@i",
    "юս)րF)MADDA_~@=A_ ι@/HAMZA_~@=A_ ι@=Aγ~@=Aγ ι@&ISOLATED@&ι@"]),
  (65279, ["aZERO WIDTH NO-BREAK SPACE"]),
  (65281, ["aFULLWIDTH EXCսAбμkQUքбμkс^kDOLLAR^kզCг^kAMզSДlPOSTROPHEkθúk| úkASжISKkPLUS^kПkHYPHE",
    "N-MINUSkÎkSOLIDUSkáqÍqÃrþqñrлqГrÛqìqÞkCOLONkSEMICOLONkó^kաS^kã^kQUESбμkCOMMERCIиATkя>(A*B*C",
    "*D*E*F*G*H*I*J*K*L*M*N*O*P*Q*R*S*T*U*V*W*X*Y*ZlEFT êπkREОSE SOLIDUSlIGHT êπkω ACCгkВоkмVE A",
    "CCгkя?(A%B%C%D%E%F%G%H%I%J%K%L%M%N%O%P%Q%R%S%T%U%V%W%X%Y%ZlEFT CURLYπkδ оk| CURLYπkÏkθσúk| ",
    "σúaHALFWIDTH IDEOмPHջÎkθէπk| էπkIDEOмPHջПkKATAKANA ξØtυWO!? A+I+U+E+O+YA,U,O+TUs-HIRAGANA P",
    "ROLONGвSOUNDμs(A!I!U!E!O!KA#I#U#E#O!SA#I#U#E#O!TA#I#U#E#O!NA#I#U#E#O!HA#I#U#E#O!MA#I#U#E#O!",
    "YA#U#O!RA#I#U#E#O!WA!NtVOICвSOUNDμtSEMI-VOICвSOUNDμkHйUL FILLERrυМySSйМyМ-իyNзN%-CзC&HзHyըy",
    "SSйըyRзL%-М&MзM&PзP&ի&THзTH&PHзPH&HзHyMзMyPзPySSйPзPyPзP-իyիzSйիyзNGyCзCySSйCзCyCHзCHyKHзKH",
    "yTHзTHyPHзPHyHзH"]),
  (65474, ["aHALFWIDTH HйUL(AzEyYA!EyEOz"]),
  (65482, ["aHALFWIDTH HйUL(YEO!yOyWA!EyOE"]),
  (65490, ["aHALFWIDTH HйUL(YOyUyWEO!zIyYU"]),
  (65498, ["aHALFWIDTH HйUL(EUyYIyI"]),
  (65504, ["aFULLWIDTH Cг^kPOUND^kNOT^kÚkBROKENдkYEN^kWON^"]),
  (65512, ["aHALFWIDTH@S É δkε[kUPæ[k|æ[kτ[kρ êkσä"]),
  (65529, ["aINжоAR ANNքб ANCHORxЯxжMINATORaOBJECT REPLACEMг CHARACжaREPLACEMг CHARACж"])]

end TextShell.CharName
