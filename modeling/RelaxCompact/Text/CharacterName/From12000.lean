import RelaxCompact.Text.CharacterName.Block

/-!
The names of the characters from U+12000 to U+1CFFF.
-/

namespace RelaxCompact.CharacterName

/-- The names from U+12000 to U+16EFF. -/
def from12000 : List Block :=
  [⟨0x12000, [
    "aCUNEIFORM SIGN AdTIMES AeBADeGAN2 TENUeHAeIGIeLAGAR GUNUeMUSHeSAGcA2cABdTIMES ASH2",
    "eDUN3 GUNUeGALeGAN2 TENUeHAeIGI GUNUeIMINeLAGABeSHESHeU PLUS U PLUS UdGUNUcAB2dTIMES BALAG",
    "eGAN2 TENUeME PLUS ENeSHA3eTAK4cADcAKdTIMES ERIN2eSHITA PLUS GISHcALdTIMES ALeDIM2eGISHeHA",
    "eKAD3eKIeSHEeUSHcALANcALEPHcAMARdTIMES SHEcANdOVER ANdTHREE TIMES",
    "dPLUS NAGA OPPOSING AN PLUS NAGAfSQUAREDcANSHEcAPINcARADdTIMES KURcARKABcASAL2cASH",
    "dZIDA TENUdKABAqdOVER ASH TUG2 OVER TUG2 TUG2 OVER TUG2 PAPfOVER ASH",
    "hCROSSING ASH OVER ASH OVER ASHcASH2cASHGABcBAcBADcBAG3cBAHAR2cBALdOVER BALcBALAGcBARcBARA2",
    "cBIdTIMES AeGAReIGI GUNUcBUdOVER BU ABfUNdCROSSING BUcBULUGdOVER BULUGcBURcBUR2cDAcDAG",
    "dKISIM5 TIMES A PLUS MASHfAMARfBALAGfBIfGAgPLUS MASHfGIfGIR2fGUDfHAfIRgPLUS LUfKAKfLAfLU",
    "gPLUS MASH2fLUMfNEfPAP PLUS PAPfSIfTAK4fU2 PLUS GIR2fUSHcDAMcDARcDARA3+cDIcDIBcDIM",
    "dTIMES SHEcDIM2cDINdKASKAL U GUNU DISHcqcDUdOVER DUdGUNUdSHESHIGcDUBdTIMES ESH2cDUB2cDUG",
    "cDUGUDcDUHcDUNcDUN3dGUNUeGUNUcDUN4cDUR2cEdTIMES PAPdOVER E NUN OVER NUNcE2",
    "dTIMES A PLUS HA PLUS DAeGAReMIeSALeSHEeUcEDINcEGIRcELcENdTIMES GAN2fTENUeMEdCROSSING EN",
    "dOPPOSINGqdSQUAREDcERENcERIN2cESH2cEZENdTIMES AfPLUS LALhTIMES LALeANeBADeDUN3 GUNUgGUNUeHA",
    "fGUNUeIGIqeKASKALfSQUAREDeKU3eLAeLAL TIMES LALeLIeLUeU2eUDcGAdGUNUcGA2",
    "dTIMES A PLUS DA PLUS HAgqgIGIeAB2 TENU PLUS TABeANeASHeASH2 PLUS GALeBADeBAR PLUS RAeBUR",
    "fPLUS RAeDAeDIeDIM TIMES SHEeDUBeELfPLUS LAeENfTIMES GAN2 TENUereGAReGIeGI4fPLUS A",
    "eGIR2 PLUS SUeHA PLUS LU PLUS ESH2eHALfPLUS LAeHI PLUS LIeHUB2eIGI GUNU",
    "eISH PLUS HU PLUS ASHeKAKeKASKALeKIDfPLUS LALeKU3 PLUS ANeLAeME PLUS ENeMIeNUNfOVER NUNePA",
    "eSALeSAReSHEfPLUS TUReSHIDeSUMeTAK4eUeUDfPLUS DUdOVER GA2cGABAdCROSSING GABAcGAD",
    "dOVER GAD GAR OVER GARcGALdGAD OVER GAD GAR OVER GARcGALAMcGAMcGANcGAN2dTENUdOVER GAN2",
    "dCROSSINGqcGARcGAR3cGASHANcGESHTINdTIMES KURcGIdTIMES EeUdCROSSING GIcGI4dOVER GI4",
    "dCROSSINGqcGIDIMcGIR2dGUNUcGIR3dTIMES A PLUS IGIeGAN2 TENUeIGIeLU PLUSqePAcGISALcGISH",
    "dCROSSING GISHdTIMES BADeTAK4dTENUcGUdCROSSING GUcGU2dTIMES KAKfTIMES IGI GUNUeNUN",
    "eSAL PLUS TUG2dGUNUcGUDdTIMES A PLUS KUReqdOVER GUD LUGALcGULcGUMdTIMES SHEcGURcGUR7cGURUN",
    "cGURUSHcHAdTENUdGUNUcHALcHIdTIMES ASHeASH2eBADeDISHeGADeKINeNUNeSHEeUcHUcHUB2dTIMES ANeHAL",
    "eKASKALeLISHeUDcHUL2cIdAcIBcIDIMdOVER IDIM BURfSQUAREDcIGcIGIdDIBdRI",
    "dOVER IGI SHIR OVER SHIR UD OVER UDdGUNUcILdTIMES GAN2 TENUcIL2cIMdTIMES TAK4dCROSSING IM",
    "dOPPOSINGqdSQUAREDcIMINcINcIRcISHcKAdTIMES AeADfPLUS KU3eASH2eBADeBALAGeBAReBIeERIN2eESH2",
    "eGAeGALeGAN2 TENUeGARfPLUS SHA3 PLUS AeGIeGIR2eGISH PLUS SARfCROSSING GISHeGUeGUR7eIGIeIM",
    "eKAKeKIeKIDeLIeLUeMEfPLUS DUgGIgTEeMIfPLUS NUNUZeNEeNUNePIeRUeSAeSAReSHAeSHEeSHIDeSHUeSIG",
    "eSUHUReTAReUeU2eUDeUMUM TIMES PAeUSHeZIcKA2dCROSSING KA2cKABcKAD2+++dOVER KAD5cKAK",
    "dTIMES IGI GUNUcKALdTIMES BADdCROSSING KALcKAM2cKAM4cKASKAL",
    "dLAGAB TIMES U OVER LAGAB TIMES UdOVER KASKALwcKESH2cKIdTIMES BADeUeUDcKIDcKINcKISALcKISH",
    "cKISIM5dOVER KISIM5cKUdOVER HI TIMES ASH2 KU OVER HI TIMES ASH2cKU3+dVARIANT FORMcKU7cKUL",
    "dGUNUcKUNcKURdOPPOSING KURcKUSHU2cKWU318cLAcLAGABdTIMES AfPLUS DA PLUS HAgGARgLALeALeAN",
    "eASH ZIDA TENUeBADeBIeDAReENeGAeGAReGUDfPLUS GUDeHAeHALeHI TIMES NUNeIGI GUNUeIMfPLUS HAgLU",
    "eKIeKINeKU3eKULfPLUS HI PLUS AeLAGABeLISHeLUeLULeMEfPLUS ENeMUSHeNEeSHE PLUS SUM",
    "eSHITA PLUS GISH PLUS ERIN2hTENUeSHU2fPLUS SHU2eSUMeTAGeTAK4eTE PLUS A PLUS SU PLUS NAeU",
    "fPLUS AgU PLUS UeU2 PLUS ASHeUDeUSHdSQUAREDcLAGARdTIMES SHEfPLUS SUMdGUNU",
    "eOVER LAGAR GUNU SHEcLAHSHUcLALdTIMES LALcLAMdTIMES KURfPLUS RUcLIcLILcLIMMU2cLISHcLU",
    "dTIMES BADcLU2dTIMES ALeBADeESH2fTENUeGAN2qeHI TIMES BADeIMeKAD2+fPLUS ASHeKIeLA PLUS ASH",
    "eLAGABeME PLUS ENeNEeNUeSI PLUS ASHeSIK2 PLUS BUeTUG2dTENUdCROSSING LU2dOPPOSINGqdSQUARED",
    "dSHESHIGcLU3cLUGALdOVER LUGALdOPPOSINGqdSHESHIGcLUHcLULcLUMdOVER LUMfGAR OVER GARcMA",
    "dTIMES TAK4dGUNUcMA2cMAHcMARcMASHcMASH2cMEcMEScMIcMINcMUdOVER MUcMUGdGUNUcMUNSUBcMURGU2",
    "cMUSHdTIMES AeKUReZAdOVER MUSHfTIMES A PLUS NAdCROSSING MUSHcMUSH3dTIMES AfPLUS DIeqdGUNU",
    "cNAcNA2cNAGAdINVERTEDdTIMES SHU TENUdOPPOSING NAGAcNAGARcNAM NUTILLUdcNAM2cNEdTIMES AeUD",
    "dSHESHIGcNIdTIMES EcNI2cNIMdTIMES GAN2 TENUeGAR PLUSrcNINDA2dTIMES ANeASHfPLUS ASHeGUD",
    "eME PLUS GAN2 TENUeNEeNUNeSHEfPLUS A ANgASHhPLUS ASHeU2reUSHcNISAGcNUcNU11cNUN",
    "dLAGAR TIMES GARfMASHfSALgOVER NUN LAGAR TIMES SALfUSHdTENUdOVER NUNdCROSSINGq",
    "fLAGAR OVER LAGARcNUNUZdAB2 TIMES ASHGABfBIfDUGfGUDfIGI GUNUfKAD3fLAfNEfSILA3fU2",
    "dKISIM5 TIMES BIgUcPAcPADcPANcPAPcPESH2cPIdTIMES AeABeBIeBUeEeIeIBeUeU2dCROSSING PIcPIRIG",
    "dTIMES KALeUDeZAdOPPOSING PIRIGcRAcRABcRIcRUcSAcSAG NUTILLUddTIMES AeDUeDUBeHAeKAKeKUReLUM",
    "eMIeNUNeSALeSHIDeTABeU2eUBeUMeUReUSHdOVER SAGdGUNUcSALdLAGAB TIMES ASH2cSANGA2cSARcSHAcSHA3",
    "dTIMES AeBADeGISHeNEeSHU2eTUReUfPLUS AcSHA6cSHAB6cSHAR2cSHEdHU",
    "dOVER SHE GAD OVER GAD GAR OVER GARfTAB OVER TABscSHEG9cSHENcSHESHcSHESH2cSHESHLAMcSHID",
    "dTIMES AeIMcSHIMdTIMES AeBALeBULUGeDINeGAReIGIfGUNUeKUSHU2eLULeMUGeSALcSHINIGcSHIRdTENU",
    "dOVER SHIR BUR OVER BURcSHITAcSHUdOVER INVERTED SHUcSHU2cSHUBURcSIdGUNUcSIGcSIG4",
    "dOVER SIG4 SHU2cSIK2cSILA3cSUdOVER SUcSUDcSUD2cSUHURcSUMcSUMASHcSURcSUR9cTAdASTERISK",
    "dTIMES HIeMIdGUNUcTABdOVER TAB NI OVER NI DISH OVER DISHdSQUAREDcTAGdTIMES BIeGUDeSHEeSHU",
    "eTUG2eUDcTAK4cTARcTEdGUNUcTIdTENUcTILcTIRdTIMES TAK4dOVER TIRfGAD OVER GAD GAR OVER GARcTU",
    "cTUG2cTUKcTUMcTURdOVER TUR ZA OVER ZAcUdGUDdU UdOVER U PA OVER PA GAR OVER GARfSUR OVER SUR",
    "fU REVERSED OVER U REVERSEDcU2cUBcUDdKUSHU2dTIMES BADeMIeU PLUS U PLUS UjGUNUdqdSHESHIG",
    "eTIMES BADcUDUGcUMdTIMES LAGABeME PLUS DAeSHA3eUcUMBINcUMUMdTIMES KASKALePAcUNdGUNUcUR",
    "dCROSSING URdSHESHIGcUR2dTIMES A PLUS HAgNAeALeHAeNUNeU2fPLUS ASHgBIcUR4cURIcURI3cURU",
    "dTIMES AeASHGABeBAReDUNeGAeGALeGAN2 TENUeGAReGUeHAeIGIeIMeISHeKIeLUMeMINePAeSHEeSIG4eTU",
    "eU PLUS GUDeUDeURUDAcqdTIMES UcUSHdTIMES AeKUeKUReTAK4cUSHXcUSH2cUSHUMXcUTUKIcUZ3",
    "dTIMES KASKALcUZUcZAdTENUdSQUARED TIMES KURcZAGcZAMXcZE2cZIdOVER ZIcZI3cZIBdKABA TENUcZIG",
    "cZIZ2cZUcZU5dTIMES AcZUBURcZUMcKAP ELAMITEcAB TIMES NUNcAB2 TIMES AcAMAR TIMES KUG",
    "cDAG KISIM5 TIMES U2 PLUS MASHcDAG3cDISH PLUS SHUcDUB TIMES SHEcEZEN TIMES GUDeSHE",
    "cGA2 TIMES AN PLUS KAK PLUS AeASH2cGE22cGIGcHUSHcKA TIMES ANSHEeASH3eGISHeGUDeHI TIMES ASH2",
    "eLUMePAeSHULeTUeUR2cLAGAB TIMES GIcLU2 SHESHIG TIMES BADdTIMES ESH2 PLUS LALeSHUcMESH",
    "cMUSH3 TIMES ZAcNA4cNINcNIN9cNINDA2 TIMES BALeGIcNU11 ROTATED NINETY DEGREEScPESH2 ASTERISK",
    "cPIR2cSAG TIMES IGI GUNUcTI2cUM TIMES MEcU U"]⟩,
    ⟨0x12400, [
    "aCUNEIFORM NUMERIC SIGN TWO ASHdTHREEqdFOURqdFIVEqdSIXqdSEVENqdEIGHTqdNINEqdTHREE DISH",
    "dFOURqdFIVEqdSIXqdSEVENqdEIGHTqdNINEqdFOUR UdFIVEqdSIXqdSEVENqdEIGHTqdNINEqdONE GESH2dTWOq",
    "dTHREEqdFOURqdFIVEqdSIXqdSEVENqdEIGHTqdNINEqdONE GESHUdTWOqdTHREEqdFOURqdFIVEqdTWO SHAR2",
    "dTHREEqfVARIANT FORMdFOUR SHAR2dFIVEqdSIXqdSEVENqdEIGHTqdNINEqdONE SHARUdTWOqdTHREEq",
    "fVARIANT FORMdFOUR SHARUdFIVEqdSHAR2 TIMES GAL PLUS DISHhMINdONE BURUdTWOqdTHREEq",
    "fVARIANT FORMdFOUR BURUdFIVEqdTHREE VARIANT FORM ESH16gESH21dFOUR VARIANT FORM LIMMUgLIMMU4",
    "gLIMMU AhBdSIX VARIANT FORM ASH9dSEVEN VARIANT FORM IMIN3gIMIN AhBdEIGHT VARIANT FORM USSU",
    "gUSSU3dNINE VARIANT FORM ILIMMUgILIMMU3+gILIMMU AdTWO ASH TENUdTHREErdFOURrdFIVErdSIXr",
    "dONE BAN2dTWOqdTHREEqdFOURqfVARIANT FORMdFIVE BAN2fVARIANT FORMdNIGIDAMINdNIGIDAESH",
    "dONE ESHE3dTWOqdONE THIRD DISHdTWO THIRDSqdFIVE SIXTHSqdONE THIRD VARIANT FORM A",
    "dTWO THIRDSsdONE EIGHTH ASHeQUARTERqdOLD ASSYRIAN ONE SIXTHgQUARTERdONE QUARTER GUReHALFq",
    "dELAMITE ONE THIRDeTWO THIRDSeFORTYeFIFTYdFOUR U VARIANT FORMdFIVEsdSIXsdSEVENsdEIGHTs",
    "dNINEs"]⟩,
    ⟨0x12470, [
    "aCUNEIFORM PUNCTUATION SIGN OLD ASSYRIAN WORD DIVIDERdVERTICAL COLONdDIAGONALqeTRICOLON",
    "eQUADCOLON"]⟩,
    ⟨0x12480, [
    "aCUNEIFORM SIGN AB TIMES NUN TENUeSHU2cAD TIMES ESH2cBAD TIMES DISH TENUcBAHAR2 TIMES AB2",
    "eNIeZAcBU OVER BU TIMES NA2cDA TIMES TAK4cDAG TIMES KURcDIM TIMES IGIeU U UcDIM2 TIMES UD",
    "cDUG TIMES ANSHEeASHfAT LEFTeDINeDUNeERIN2eGAeGIeGIR2 GUNUeGISHeHAeHIeIGI GUNUeKASKALeKUR",
    "eKUSHU2fPLUS KASKALeLAK-020eLAMfTIMES KUReLUH PLUS GISHeMASHeMESeMIeNIePIeSHEeSI GUNU",
    "cE2 TIMES KURePAPcERIN2 XcESH2 CROSSING ESH2cEZEN SHESHIG TIMES ASHfHIfIGI GUNUfLAfLALfME",
    "fMESfSUdrcGA2 TIMES BAHAR2eDIM GUNUeDUG TIMES IGIqgKASKALeERENeGAeGAR PLUS DIgNEeHA PLUS A",
    "eKUSHU2 PLUS KASKALeLAMfTIMES KUReLUHeMUSHeNEfPLUS E2gGIeSHIMeZIZ2",
    "cGABA ROTATED NINETY DEGREEScGESHTIN TIMES UcGISH TIMES GISH CROSSING GISH",
    "cGU2 TIMES IGI GUNUcGUD PLUS GISH TIMES TAK4cHA TENU GUNUcHI TIMES ASH OVER HI TIMES ASH",
    "cKA TIMES BUeKAeU U UeURcLAGAB TIMES ZU OVER ZUcLAK-003cLAK-021cLAK-025cLAK-030cLAK-050+",
    "cLAK-062cLAK-079 OVER LAK-079 GUNUcLAK-080cLAK-081 OVER LAK-081cLAK-092cLAK-130cLAK-142",
    "cLAK-210cLAK-219+cLAK-225cLAK-228cLAK-238cLAK-265+cLAK-343cLAK-347+cLAK-383+cLAK-390",
    "cLAK-441cLAK-449dTIMES GUeIGIePAP PLUS LU3gPAP PLUSqeU2 PLUS BAcLAK-450cLAK-457cLAK-470",
    "cLAK-483cLAK-490cLAK-492+cLAK-495cLAK-550cLAK-608cLAK-617dTIMES ASHeBADeDUN3 GUNU GUNUeKU3",
    "eLAeTAReTEeU2eUDeURUDAcLAK-636cLAK-648dTIMES DUBeGAeIGIfGUNUeNIePAP PLUS PAP PLUS LU3",
    "eSHESH PLUS KIeUDeURUDAcLAK-724cLAK-749cLU2 GUNU TIMES ASHdTIMES DISHeHALePAP",
    "fPLUS PAP PLUS LU3eTAK4cMI PLUS ZA7cMUSH OVER MUSH TIMES GAgKAKcNINDA2 TIMES DIM GUNUeGISH",
    "eGULeHIeKESH2eLAK-050eMASHePAP PLUS PAPeUfPLUS UeURUDAcSAG GUNU TIMES HAdTIMES EN",
    "eSHE AT LEFTeTAK4cSHA6 TENUcSHE OVER SHEdPLUS HUB2eNAM2eSARcSHU2 PLUS DUG TIMES NI",
    "eE2 TIMES ANcSI TIMES TAK4cTAK4 PLUS SAGcTUM TIMES GAN2 TENUeTHREE DISHcUR2 INVERTED",
    "dTIMES UDcURU TIMES DARA3eLAK-668eLU3cZA7cZU OVER ZU PLUS SARcZU5 TIMES THREE DISH TENU"]⟩,
    ⟨0x12F90, [
    "aCYPRO-MINOAN SIGN CM001+cCM004++++++++cCM012BcCM013cCM015cCM017cCM019cCM021cCM023+++++++",
    "cCM033++++++++cCM044cCM046+cCM049+++++++cCM058++++++cCM066+++++++++cCM075BcCM076cCM078+++++",
    "+++++++++cCM094+++++++++++cCM107+++cCM112cCM114cCM301+"]⟩,
    ⟨0x13000, [
    "aEGYPTIAN HIEROGLYPH A001++++cA005AcA006cA006AcA006BcA007+++++++cA014AcA015++cA017AcA018+++",
    "+++++++++++cA032AcA033+++++++cA040AcA041+cA042AcA043cA043AcA044+cA045AcA046++++++++++++++++",
    "++++++++cB001++++cB005AcB006+++cC001+cC002AcC002BcC002CcC003+++++++cC010AcC011+++++++++++++",
    "cD001+++++++cD008AcD009++++++++++++++++++cD027AcD028+++cD031AcD032++cD034AcD035+++++++++++",
    "cD046AcD047+cD048AcD049+cD050AcD050BcD050CcD050DcD050EcD050FcD050GcD050HcD050IcD051+cD052A",
    "cD053+cD054AcD055++++++++++++cD067AcD067BcD067CcD067DcD067EcD067FcD067GcD067HcE001+++++++",
    "cE008AcE009cE009AcE010++++++cE016AcE017cE017AcE018++cE020AcE021+++++++cE028AcE029+++++",
    "cE034AcE036++cF001cF001AcF002+++++++++++cF013AcF014+++++++cF021AcF022+++++++++cF031AcF032++",
    "+++cF037AcF038cF038AcF039++++++cF045AcF046cF046AcF047cF047AcF048+++cF051AcF051BcF051CcF052+",
    "cG001+++++cG006AcG007cG007AcG007BcG008+++cG011AcG012++++++++cG020AcG021+++++cG026AcG027++++",
    "+++++cG036AcG037cG037AcG038+++++cG043AcG044+cG045AcG046++++++++cH001+++++cH006AcH007+cI001+",
    "+++cI005AcI006+++cI009AcI010cI010AcI011cI011AcI012+++cK001+++++++cL001+cL002AcL003+++cL006A",
    "cL007+cM001cM001AcM001BcM002+cM003AcM004++++++cM010AcM011+cM012AcM012BcM012CcM012DcM012E",
    "cM012FcM012GcM012HcM013++cM015AcM016cM016AcM017cM017AcM018++++cM022AcM023+cM024AcM025+++",
    "cM028AcM029++cM031AcM032+cM033AcM033BcM034++++++cM040AcM041+++cN001+++++++++++++++++cN018A",
    "cN018BcN019++++++cN025AcN026+++++++cN033AcN034cN034AcN035cN035AcN036+cN037AcN038++++cNL001+",
    "+++cNL005AcNL006+++++++++++cNL017AcNL018++cNU001+++++++++cNU010AcNU011cNU011AcNU012++++++",
    "cNU018AcNU019+++cNU022AcO001cO001AcO002+++cO005AcO006cO006AcO006BcO006CcO006DcO006EcO006F",
    "cO007+++cO010AcO010BcO010CcO011++++++++cO019AcO020cO020AcO021+++cO024AcO025cO025AcO026+++",
    "cO029AcO030cO030AcO031++cO033AcO034++cO036AcO036BcO036CcO036DcO037+++++++++++++cO050AcO050B",
    "cO051cP001cP001AcP002+cP003AcP004+++++++cQ001++++++cR001+cR002AcR003cR003AcR003BcR004++++++",
    "cR010AcR011+++++cR016AcR017++++++++++++cS001+cS002AcS003+++cS006AcS007+++++++cS014AcS014B",
    "cS015++cS017AcS018++++++++cS026AcS026BcS027++++++++cS035AcS036++++++++++cT001++cT003AcT004+",
    "++cT007AcT008cT008AcT009cT009AcT010+cT011AcT012++++cT016AcT017+++++++++++++++cT032AcT033",
    "cT033AcT034++cU001+++++cU006AcU006BcU007++++++++++++++++cU023AcU024+++++cU029AcU030++cU032A",
    "cU033+++++++++cV001cV001AcV001BcV001CcV001DcV001EcV001FcV001GcV001HcV001IcV002cV002AcV003++",
    "++cV007AcV007BcV008+++cV011AcV011BcV011CcV012cV012AcV012BcV013+++++++cV020AcV020BcV020C",
    "cV020DcV020EcV020FcV020GcV020HcV020IcV020JcV020KcV020LcV021++cV023AcV024++++cV028AcV029",
    "cV029AcV030cV030AcV031cV031AcV032+cV033AcV034+++cV037AcV038++cV040AcW001++cW003AcW004+++++",
    "cW009AcW010cW010AcW011+++cW014AcW015++cW017AcW018cW018AcW019+++++cW024AcW025cX001+++cX004A",
    "cX004BcX005+cX006AcX007+cX008AcY001cY001AcY002++++++cZ001+cZ002AcZ002BcZ002CcZ002DcZ003",
    "cZ003AcZ003BcZ004cZ004AcZ005cZ005AcZ006+++++++++cZ015AcZ015BcZ015CcZ015DcZ015EcZ015FcZ015G",
    "cZ015HcZ015IcZ016cZ016AcZ016BcZ016CcZ016DcZ016EcZ016FcZ016GcZ016HcAA001++++++cAA007AcAA007B",
    "cAA008++++++++++++++++++++++++"]⟩,
    ⟨0x13430, [
    "aEGYPTIAN HIEROGLYPH VERTICAL JOINERcHORIZONTALqcINSERT AT TOP STARTeBOTTOMqeTOP END",
    "eBOTTOMqcOVERLAY MIDDLEcBEGIN SEGMENTcENDq"]⟩,
    ⟨0x14400, [
    "aANATOLIAN HIEROGLYPH A001+++++++++cA010AcA011+++++++++++++++cA026AcA027++++++++++++cA039A",
    "cA040+cA041AcA042+++cA045AcA046cA046AcA046BcA047+++++++++++++++++++cA066AcA066BcA066CcA067+",
    "+++++++++++++++++++++++++++++cA097AcA098cA098AcA099+cA100AcA101cA101AcA102cA102AcA103+",
    "cA104AcA104BcA104CcA105cA105AcA105BcA106+cA107AcA107BcA107CcA108++cA110AcA110BcA111++++",
    "cA115AcA116+++++++++cA125AcA126+++++++++cA135AcA136++++++++++++++++++++++++++++++++++++++++",
    "++++++++++++++++++++++++++cA202AcA202BcA203++++cA207AcA208+cA209AcA210+++++cA215AcA216",
    "cA216AcA217++++++++++cA227AcA228+++++++++++++++++++++++++++++++++++++++cA267AcA268+++++++++",
    "++++++++++++cA289AcA290++++cA294AcA295++++cA299AcA300+++++++++cA309AcA310++++++++++++++++++",
    "+cA329AcA330+cA332AcA332BcA332CcA333+++cA336AcA336BcA336CcA337++++++++++++++++++++++cA359A",
    "cA360++++cA364AcA365+++cA368AcA369++cA371AcA372+++++++++cA381AcA382cA383 RA OR RIcA383A",
    "cA384++cA386AcA387+++++cA393 EIGHTcA394+++++++++++++++cA410 BEGIN LOGOGRAM MARKcA410A ENDr",
    "cA411+++++++++++++++++++++++++++++++++++++++cA450AcA451++++++cA457AcA458+++++++++++++++++++",
    "++++++++++++++++++++cA501+++++++++++++++++++++++++++++"]⟩,
    ⟨0x16800, [
    "aBAMUM LETTER PHASE-A NGKUE MFONdGBIEE FONdPON MFON PIPAEMGBIEEfPIPAEMBAdNAA MFON",
    "dSHUENSHUETdTITA MFONdNZAqdSHINDA PA NJIdPON PA NJI PIPAEMGBIEEgPIPAEMBAdMAEMBGBIEE",
    "dTU MAEMBAdNGANGUdMAEMVEUXdMANSUAEdMVEUAENGAMdSEUNYAMdNTOQPENdKEUKEUTNDAdNKINDIdSUU",
    "dNGKUENZEUMdLAPAQdLET KUTdNTAP MFAAdMAEKEUPdPASHAEdGHEUAERAEdPAMSHAEdMON NGGEUAETdNZUN MEUT",
    "dU YUQ NAEdGHEUAEGHEUAEdNTAP NTAAdSISAdMGBASAdMEUNJOMNDEUQdMOOMPUQdKAFAdPA LEERAEWAdNDAq",
    "dPETdMAEMKPENdNIKAdPUPdTUAEPdLUAEPdSONJAMdTEUTEUWENdMAENYIdKETdNDAANGGEUAETdKUOQdMOOMEUT",
    "dSHUMdLOMMAEdFIRIdROMdKPOQdSOQdMAP PIEETdSHIRAEdNTAPdSHOQ NSHUT YUMdNYIT MONGKEUAEQdPAARAE",
    "dNKAARAEdUNKNOWNdNGGENdMAESIdNJAMdMBANYIdNYETdTEUAENdSOTdPAAMdNSHIEEdMAEMdNYIdKAQdNSHAdVEE",
    "dLUdNENdNAQdMBAQcPHASE-B NSHUETdTU MAEMGBIEEdSIEEdSET TUdLOM NTEUMdMBA MAELEEdKIEEMdYEURAE",
    "dMBAARAEdKAMdPEESHIdYAFU LEERAEWAdLAM NSHUT NYAMdNTIEE SHEUOQdNDU NJAAdGHEUGHEUAEMdPIT",
    "dTU NSIEEdSHET NJAQdSHEUAEQTUdMFON TEUAEQdMBIT MBAAKETdNYI NTEUMdKEUPUQdGHEUGHENdKEUYEUX",
    "dLAANAEdPARUMdVEUMdNGKINDI MVOPdNGGEU MBUdWUAETdSAKEUAEdTAAMdMEUQdNGGUOQeLARGEdMFIYAQdSUE",
    "dMBEURIdMONTIEENdNYAEMAEdPUNGAAMdMEUT NGGEETdFEUXdMBUOQdFEEdKEUAEMdMA NJEUAENAeNJUQAdLET",
    "dNGGAAMdNSENdMAdKIQdNGOMcPHASE-C NGKUE MAEMBAdNZAdYUMdWANGKUOQdNGGENdNDEUAEREEdNGKAQdGHARAE",
    "dMBEEKEETdGBAYIdNYIR MKPARAQ MEUNdNTU MBITdMBEUMdPIRIEENdNDOMBUdMBAA CABBAGE-TREE",
    "dKEUSHEUAEPdGHAPdKEUKAQdYU MUOMAEdNZEUMdMBUEdNSEUAENdMBITdYEUQdKPARAQdKAAdSEUXdNDIDA",
    "dTAASHAEdNJUEQdTITA YUEdSUAETdNGGUAEN NYAMdVEUXdNANSANAQdMA KEUAERIdNTAAdNGGUONdLAP",
    "dMBIRIEENdMGBASAQdNTEUNGBAdTEUTEUXdNGGUMdFUEdNDEUTdNSAdNSHAQdBUNGdVEUAEPENdMBERAEdRUdNJAEM",
    "dLAMdTITUAEPdNSUOT NGOMdNJEEEEdKETdNGGUdMAESIdMBUAEMdLUdKUTdNJAMdNGOMdWUPdNGGUEETdNSOMdNTEN",
    "dKUOP NKAARAEdNSUNdNDAMdMA NSIEEdYAAdNDAPdSHUEQdSETFONdMBIdMAEMBAdMBANYIdKEUSEUXdMBEUXdKEUM",
    "dMBAA PICKETdYUWOQdNJEUXdMIEEdMUAEdSHIQdKEN LAWeFATIGUEdNGAQdNAQdLIQdPINdPENdTET",
    "cPHASE-D MBUOdWAPdNJIdMFONdNJIEEdLIEEdNJEUTdNSHEEdNGGAAMAEdNYAMdWUAENdNGKUNdSHEEdNGKAP",
    "dKEUAETMEUNdTEUTdSHEUAEdNJAPdSUEdKETdYAEMMAEdKUOMdSAPdMFEUTdNDEUXdMALEERIdMEUTdSEUAEQdYEN",
    "dNJEUAEMdKEUOT MBUAEdNGKEURIdTUdGHAAdNGKYEEdFEUFEUAETdNDEEdMGBOFUMdLEUAEPdNDONdMONIdMGBEUN",
    "dPUUTdMGBIEEdMFOdLUMdNSIEEPdMBAAdKWAETdNYETdTEUAENdSOTdYUWOQdKEUMdRAEMdTEEEEdNGKEUAEQ",
    "dMFEUAEdNSIEETdKEUPdPIPdPEUTAEdNYUEdLETdNGGAAMdMFIEEdNGGWAENdYUOMdPAPdYUOPdNDAMdNTEUMdSUAE",
    "dKUNdNGGEUXdNGKIEEdTUOTdMEUNdKUQdNSUMdTEUNdMAENJETdNGGAPdLEUMdNGGUOMdNSHUTdNJUEQdGHEUAEdKU",
    "dREN OLDdTAEdTOQdNYIdRIIdLEEEEdMEEEEdMdSUUdMUdSHIIdSHEUXdKYEEdNUdSHUdNTEEdPEEdNIdSHOQdPUQ",
    "dMVOPdLOQdREN MUCHdTIdNTUUdMBAA SEVENdSAQdFAAcPHASE-E NDAPdTOONdMBEUMdLAPdVOMdLOONdPAAdSOM",
    "dRAQdNSHUOPdNDUNdPUAEdTAMdNGKAdKPEUXdWUOdSEEdNGGEUAETdPAAMdTOOdKUOPdLOMdNSHIEEdNGOPdMAEM",
    "dNGKEUXdNGOQdNSHUEdRIMGBAdNJEUXdPEEMdSAAdNGGURAEdMGBAdGHEUXdNGKEUAEMdNJAEMLIdMAPdLOOT",
    "dNGGEEEEdNDIQdTAEN NTEUMdSETdPUMdNDAA SOFTNESSdNGGUAESHAE NYAMdYIEEdGHEUNdTUAEdYEUAEdPO",
    "dTUMAEdKEUAEdSUAENdTEUAEQdVEUAEdWEUXdLAAMdPUdTAAQdGHAAMAEdNGEUREUTdSHEUAEQdMGBENdMBEEdNZAQ",
    "dNKOMdGBETdTUMdKUETdYAPdNYI CLEAVERdYITdMFEUQdNDIAQdPIEEQdYUEQdLEUAEMdFUEdGBEUXdNGKUPdKET",
    "dMAEdNGKAAMIdGHETdFAdNTUMdPEUTdYEUMdNGGEUAEdNYI BETWEENdNZUQdPOONdMIEEdFUETdNAEdMUAEdGHEUAE",
    "dFU IdMVIdPUAQdNGKUMdKUTdPIETdNTAPdYEUAETdNGGUPdPA PEOPLEdFU CALLdFOMdNJEEdAdTOQdOdIdLAQ",
    "dPA PLURALdTAAdTAQdNDAA MY HOUSEdSHIQdYEUXdNGUAEdYUAENdYOQ SWIMMINGeCOVERdYUQdYUNdKEUXdPEUX",
    "dNJEE EPOCHdPUEdWUEdFEEdVEEdLUdMIdREUXdRAEdNGUAETdNGAdSHOdSHOQdFU REMEDYdNAdPIdLOQdKOdMEN",
    "dMAdMAQdTEUdKIdMONdTENdFAQdGHOMcPHASE-F KAdUdKUdEEdREEdTAEdNYIdLAdRIIdRIEEdMEEEEdTAAdNDAA",
    "dNJAEMdMdSUUdSHIIdSIdSEUXdKYEEdKETdNUAEdNUdNJUAEdYOQdSHUdYAdNSHAdPEUXdNTEEdWUEdPEEdRUdNI",
    "dREUXdKENdNGKWAENdNGGAdSHOdPUAEdFOMdWAdLIdLOQdKOdMBENdRENdMAdMOdMBAAdTETdKPAdSAMBAdVUEQ"]⟩,
    ⟨0x16A40, [
    "aMRO LETTER TAcNGIcYOcMIMcBAcDAcAcPHIcKHAIcHAOcDAIcCHUcKEAAEcOLcMAEMcNINcPAcOOcOcROcSHI",
    "cTHEAcEAcWAcEcKOcLANcLAcHAIcRIcTEK"]⟩,
    ⟨0x16A60, ["aMRO DIGIT ZEROcONEcTWOcTHREEcFOURcFIVEcSIXcSEVENcEIGHTcNINE"]⟩,
    ⟨0x16A6E, [
    "aMRO DANDAbDOUBLEqaTANGSA LETTER OZcOCcOQcOXcAZcACcAQcAXcVZcVCcVQcVXcEZcECcEQcEXcIZcICcIQ",
    "cIXcUZcUCcUQcUXcAWZcAWCcAWQcAWXcUIZcUICcUIQcUIXcFINAL NGcLONG UEXcSHORT UEZdAWXcUECcUEZcUEQ",
    "cUEXcUIUZcUIUCcUIUQcUIUXcMZcMCcMQcMXcKAcKHAcGAcNGAcSAcYAcWAcPAcNYAcPHAcBAcMAcNAcHAcLAcHTA",
    "cTAcDAcRAcNHAcSHAcCAcTSAcGHAcHTTAcTHAcXAcFAcDHAcCHAcZA"]⟩,
    ⟨0x16AC0, ["aTANGSA DIGIT ZEROcONEcTWOcTHREEcFOURcFIVEcSIXcSEVENcEIGHTcNINE"]⟩,
    ⟨0x16AD0, [
    "aBASSA VAH LETTER ENNIdKAdSEdFAdMBEdYIEdGAHdDHIIdKPAHdJOdHWAHdWAdZOdGBUdDOdCEdUWUdTOdBAdVU",
    "dYEINdPAdWADDAdAdOdOOdUdEEdEdI"]⟩,
    ⟨0x16AF0, ["aBASSA VAH COMBINING HIGH TONEdLOWqdMIDqdLOW-MIDqdHIGH-LOWqcFULL STOP"]⟩,
    ⟨0x16B00, [
    "aPAHAWH HMONG VOWEL KEEBdKEEVdKIBdKIVdKAUBdKAUVdKUBdKUVdKEBdKEVdKAIBdKAIVdKOOBdKOOVdKAWB",
    "dKAWVdKUABdKUAVdKOBdKOVdKIABdKIAVdKABdKAVdKWBdKWVdKAABdKAAVcCONSONANT VAUdNTSAUdLAUdHAU",
    "dNLAUdRAUdNKAUdQHAUdYAUdHLAUdMAUdCHAUdNCHAUdHNAUdPLHAUdNTHAUdNAUdAUdXAUdCAUcMARK CIM TUBeSO",
    "eKESeKHAVeSUAMeHOMeTAUMcSIGN VOS THOMeTSHAB CEEBdCIM CHEEMdVOS THIABeFEEMdXYEEM NTXIVeRHO",
    "eTOVeFAIBdVOS SEEVdMEEJ SUABdVOS NRUAdIB YAMdXAUSdCIM TSOV ROG"]⟩,
    ⟨0x16B50, ["aPAHAWH HMONG DIGIT ZEROdONEdTWOdTHREEdFOURdFIVEdSIXdSEVENdEIGHTdNINE"]⟩,
    ⟨0x16B5B, [
    "aPAHAWH HMONG NUMBER TENSdHUNDREDSdTEN THOUSANDSdMILLIONSdHUNDREDqdTEN BILLIONSdTRILLIONS"]⟩,
    ⟨0x16B63, [
    "aPAHAWH HMONG SIGN VOS LUBdXYOOdHLIdTHIRD-STAGEqdZWJ THAJdHNUBdNQIGdXIABdNTUJdAV",
    "dTXHEEJ CEEVdMEEJ TSEEBdTAUdLOSdMUSdCIM HAIS LUS NTOG NTOGeCUAM TSHOOJeTXWVfCHWVePUB DAWB",
    "eNRES TOS"]⟩,
    ⟨0x16B7D, [
    "aPAHAWH HMONG CLAN SIGN TSHEEJeYEEGeLISeLAUJeXYOOJeKOOeHAWJeMUASeTHOJeTSABePHABeKHABeHAM",
    "eVAJeFAJeYAJeTSWBeKWMeVWJ"]⟩,
    ⟨0x16E40, [
    "aMEDEFAIDRIN CAPITAL LETTER MdSdVdWdATIUdZdKPdPdTdGdFdIdKdAdJdEdBdCdUdYUdLdQdHPdNYdXdDdOEdN",
    "dRdOdAIdYbSMALL LETTER MdSdVdWdATIUdZdKPdPdTdGdFdIdKdAdJdEdBdCdUdYUdLdQdHPdNYdXdDdOEdNdRdO",
    "dAIdYbDIGIT ZEROcONEcTWOcTHREEcFOURcFIVEcSIXcSEVENcEIGHTcNINEbNUMBER TENcELEVENcTWELVE",
    "cTHIRTEENcFOURTEENcFIFTEENcSIXTEENcSEVENTEENcEIGHTEENcNINETEENbDIGIT ONE ALTERNATE FORM",
    "cTWOrcTHREErbCOMMAbFULL STOPbSYMBOL AIVAbEXCLAMATION OH"]⟩]

/-- The names from U+16F00 to U+1CFFF. -/
def from16F00 : List Block :=
  [⟨0x16F00, [
    "aMIAO LETTER PAcBAcYI PAcPLAcMAcMHAcARCHAIC MAcFAcVAcVFAcTAcDAcYI TTAdTAcTTAcDDAcNAcNHA",
    "cYI NNAcARCHAIC NAcNNAcNNHAcLAcLYAcLHAcLHYAcTLHAcDLHAcTLHYAcDLHYAcKAcGAcYI KAcQAcQGAcNGA",
    "cNGHAcARCHAIC NGAcHAcXAcGHAcGHHAcTSSAcDZZAcNYAcNYHAcTSHAcDZHAcYI TSHAdDZHAcREFORMED TSHA",
    "cSHAcSSAcZHAcZSHAcTSAcDZAcYI TSAcSAcZAcZSAcZZAcZZSAcARCHAIC ZZAcZZYAcZZSYAcWAcAHcHHAcBRI",
    "cSYIcDZYIcTEcTSEcRTE"]⟩,
    ⟨0x16F4F, [
    "aMIAO SIGN CONSONANT MODIFIER BARbLETTER NASALIZATIONbSIGN ASPIRATIONcREFORMED VOICING",
    "dASPIRATIONbVOWEL SIGN AdAAdAHHdANdANGdOdOOdWOdWdEdENdENGdOEYdIdIAdIANdIANGdIOdIEdIIdIUdING",
    "dUdUAdUANdUANGdUUdUEIdUNGdYdYIdAEdAEEdERRdROUNDEDqdERdROUNDEDqdAIdEIdAUdOUdNdNGdUOGdYUIdOG",
    "dOERdVWdIGdEAdIONGdUI"]⟩,
    ⟨0x16F8F, [
    "aMIAO TONE RIGHTcTOPqcABOVEcBELOWbLETTER TONE-2++++++cREFORMED TONE-1+dTONE-4++dTONE-8"]⟩,
    ⟨0x16FE0, [
    "aTANGUT ITERATION MARKaNUSHUraOLD CHINESE HOOKqcITERATIONqaKHITAN SMALL SCRIPT FILLER"]⟩,
    ⟨0x16FF0, ["aVIETNAMESE ALTERNATE READING MARK CAeNHAY"]⟩,
    ⟨0x18800, [
    "aTANGUT COMPONENT-001++++++++++++++++++++++++++++++++++++++++++++++++++++++++++++++++++++++",
    "+++++++++++++++++++++++++++++++++++++++++++++++++++++++++++++++++++++++++++++++++++++++++++",
    "+++++++++++++++++++++++++++++++++++++++++++++++++++++++++++++++++++++++++++++++++++++++++++",
    "+++++++++++++++++++++++++++++++++++++++++++++++++++++++++++++++++++++++++++++++++++++++++++",
    "+++++++++++++++++++++++++++++++++++++++++++++++++++++++++++++++++++++++++++++++++++++++++++",
    "+++++++++++++++++++++++++++++++++++++++++++++++++++++++++++++++++++++++++++++++++++++++++++",
    "+++++++++++++++++++++++++++++++++++++++++++++++++++++++++++++++++++++++++++++++++++++++++++",
    "+++++++++++++++++++++++++++++++++++++++++++++++++++++++++++++++++++++++++++++++++++++++++++",
    "++++++++++++++++++++++++++++++++++++++++++++++++++++++++++++"]⟩,
    ⟨0x1AFF0, ["aKATAKANA LETTER MINNAN TONE-2+++"]⟩,
    ⟨0x1AFF5, ["aKATAKANA LETTER MINNAN TONE-7+dNASALIZED TONE-1++++"]⟩,
    ⟨0x1AFFD, ["aKATAKANA LETTER MINNAN NASALIZED TONE-7+"]⟩,
    ⟨0x1B000, [
    "aKATAKANA LETTER ARCHAIC EaHIRAGANA LETTER ARCHAIC YEaHENTAIGANA LETTER A-1++cA-WOcI-1+++",
    "cU-1++++cE-2++++cO-1++cKA-1++++++++++cKA-KEcKI-1+++++++cKU-1++++++cKE-1+++++cKO-1++cKO-KI",
    "cSA-1+++++++cSI-1+++++cSU-1+++++++cSE-1++++cSO-1++++++cTA-1+++cTI-1++++++cTU-1+++cTU-TO",
    "cTE-1++++++++cTO-1+++++cTO-RAcNA-1++++++++cNI-1++++++cNI-TEcNU-1++cNE-1+++++cNE-KOcNO-1++++",
    "cHA-1++++++++++cHI-1++++++cHU-1++cHE-1++++++cHO-1+++++++cMA-1++++++cMI-1++++++cMU-1+++cME-1",
    "+cME-MAcMO-1+++++cYA-1++++cYA-YOcYU-1+++cYO-1+++++cRA-1+++cRI-1++++++cRU-1+++++cRE-1+++",
    "cRO-1+++++cWA-1++++cWI-1++++cWE-1+++cWO-1++++++cN-MU-MO-1+aHIRAGANA LETTER ARCHAIC WU",
    "aKATAKANA LETTER ARCHAIC YIdYEdWU"]⟩,
    ⟨0x1B150, ["aHIRAGANA LETTER SMALL WIdWEdWO"]⟩,
    ⟨0x1B164, ["aKATAKANA LETTER SMALL WIdWEdWOdN"]⟩,
    ⟨0x1BC00, [
    "aDUPLOYAN LETTER HcXcPcTcFcKcLcBcDcVcGcRcP NcD ScF NcK McR ScTHcSLOAN DHcqcKKcSLOAN JcHLcLH",
    "cRHcMcNcJcScM NcN McJqcS JcM WITH DOTcNrcJreDOTS INSIDE AND ABOVEcS WITH DOTfBELOWcM ScNq",
    "cJqcSqcM NqcN MqcJrcS JqcJ S WITH DOTdNeScS TeRdPeRcT SdRqcWcWHcW RcS NdMcK R ScGrcS KeRcA",
    "cSLOAN OWcOAcOcAOUcIcEcIEcSHORT IcUIcEEcSLOAN EHcROMANIAN IcSLOAN EEcLONG IcYEcUcEUcXWcU N",
    "cLONG UcROMANIANqcUHcSLOAN UcOOHcOWcOUcWAcWOcWIcWEIcWOWcNASAL UdOdIdAcPERNIN ANdAMcSLOAN EN",
    "dANdONcVOCALIC M"]⟩,
    ⟨0x1BC70, [
    "aDUPLOYAN AFFIX LEFT HORIZONTAL SECANTcMIDrcRIGHTrcLOW VERTICALqcMIDrcHIGHrcATTACHEDq",
    "dLEFT-TO-RIGHTqdTANGENTdTAILdE HOOKdIqdTANGENTq"]⟩,
    ⟨0x1BC80, ["aDUPLOYAN AFFIX HIGH ACUTEdTIGHTqdGRAVEdLONGqdDOTdCIRCLEdLINEdWAVEdVERTICAL"]⟩,
    ⟨0x1BC90, [
    "aDUPLOYAN AFFIX LOW ACUTEdTIGHTqdGRAVEdLONGqdDOTdCIRCLEdLINEdWAVEdVERTICALdARROW"]⟩,
    ⟨0x1BC9C, [
    "aDUPLOYAN SIGN O WITH CROSSbTHICK LETTER SELECTORbDOUBLE MARKbPUNCTUATION CHINOOK FULL STOP",
    "aSHORTHAND FORMAT LETTER OVERLAPcCONTINUINGqcDOWN STEPcUPq"]⟩,
    ⟨0x1CF00, [
    "aZNAMENNY COMBINING MARK GORAZDO NIZKO S KRYZHEM ON LEFTdudTSATArdGORAZDO NIZKOrdsdSREDNEr",
    "dMALO POVYSHErdsdVYSOKOrdMALO POVYSHE S KHOKHLOMrdudVYSOKOt",
    "dGORAZDO NIZKO S KRYZHEM ON RIGHTdudTSATArdGORAZDO NIZKOrdsdSREDNErdMALO POVYSHErdsdVYSOKOr",
    "dMALO POVYSHE S KHOKHLOMrdudVYSOKOtdTSATA S KRYZHEMdMALO POVYSHErdSTRANNO MALO POVYSHE",
    "dPOVYSHE S KRYZHEMeSTRANNOdVYSOKO S KRYZHEMdMALO POVYSHE STRANNOdGORAZDO VYSOKOdZELOdON",
    "dRAVNOdTIKHAYAdBORZAYAdUDARKAdPODVERTKAdLOMKAdKUPNAYAdKACHKAdZEVOKdSKOBAdRAZSEKA",
    "dKRYZH ON LEFT"]⟩,
    ⟨0x1CF30, [
    "aZNAMENNY COMBINING TONAL RANGE MARK MRACHNOfSVETLOfTRESVETLOcMARK ZADERZHKAdDEMESTVENNYq",
    "dOTSECHKAdPODCHASHIEeWITH VERTICAL STROKEdCHASHKAePOLNAYAdOBLACHKOdSOROCHYA NOZHKAdTOCHKA",
    "dDVOETOCHIEcATTACHING VERTICAL OMETcMARK CURVEDqdKRYZHcLOWER TONAL RANGE INDICATOR",
    "bPRIZNAK MODIFIER LEVEL-2+dDIRECTION FLIPdKRYZHdROG"]⟩,
    ⟨0x1CF50, [
    "aZNAMENNY NEUME KRYUKdTIKHYcPARAKLITcDVA V CHELNUcKLYUCHcZANOZHEKcSTOPITSAdS OCHKOM",
    "cPEREVODKAdNEPOSTOYANNAYAcSTOPITSA WITH SOROCHYA NOZHKAcCHELYUSTKAcPALKAcZAPYATAYA",
    "cGOLUBCHIK BORZYdTIKHYdMRACHNYdSVETLYdTRESVETLYcVRAKHIYA PROSTAYAdMRACHNAYAdSVETLAYA",
    "dTRESVETLAYAdKLYUCHEVAYA PROSTAYAeMRACHNAYAeSVETLAYAeTRESVETLAYAcDOUBLE ZAPYATAYA",
    "cREVERSED CHELYUSTKAcDERBITSAcKHAMILOcCHASHKAcPODCHASHIEcSKAMEYTSA MRACHNAYAdSVETLAYA",
    "dTRESVETLAYAdTIKHAYAcDEMESTVENNY KLYUCHcSKAMEYTSA KLYUCHEVAYA SVETLAYA",
    "dKLYUCHENEPOSTOYANNAYAdKLYUCHEVAYA TIKHAYAdDVOECHELNAYA PROSTAYAeSVETLAYAeNEPOSTOYANNAYA",
    "eKLYUCHEVAYAcSLOZHITIEdS ZAPYATOYdZAKRYTOEdS KRYZHEMcKRYZHcROGcFITAcKOBYLAcZMEYTSAcSTATYA",
    "dS ZAPYATOYeKRYZHEMeZAPYATOY IqeKRYZHEM I ZAPYATOYdZAKRYTAYAeS ZAPYATOYdS ROGOM",
    "eDVUMYA ZAPYATYMIeZAPYATOY I PODCHASHIEMcPOLKULIZMYcSTATYA NEPOSTOYANNAYAcSTRELA PROSTAYA",
    "dMRACHNOTIKHAYAdKRYZHEVAYAdPOLUPOVODNAYAdPOVODNAYAdNEPOSTOYANNAYAdKLYUCHEPOVODNAYA",
    "dKLYUCHENEPOSTOYANNAYAdTIKHAYA PUTNAYAdDVOECHELNAYAdDVOECHELNOKRYZHEVAYA",
    "dDVOECHELNOPOVODNAYAdDVOECHELNAYA KLYUCHEVAYAdDVOECHELNOPOVODNAYAq",
    "dGROMNAYA WITH SINGLE ZAPYATAYAdGROMOPOVODNAYAsdGROMNAYAdGROMOPOVODNAYA",
    "eWITH DOUBLE ZAPYATAYAdGROMOKRYZHEVAYAePOVODNAYAcMECHIKdPOVODNYdKLYUCHEVOYdKLYUCHEPOVODNY",
    "dKLYUCHENEPOSTOYANNYcSTRELA TRYASOGLASNAYAdTRYASOPOVODNAYAdTRYASOSTRELNAYAcOSOKAdSVETLAYA",
    "dTRESVETLAYAdKRYUKOVAYA SVETLAYAdKLYUCHEVAYAqeNEPOSTOYANNAYAcSTRELA KRYUKOVAYAePOVODNAYA",
    "eGROMNAYA WITH SINGLE ZAPYATAYAeGROMOPOVODNAYAseGROMNAYAeGROMOPOVODNAYA",
    "fWITH DOUBLE ZAPYATAYAeGROMOKRYZHEVAYAfPOVODNAYAeTRYASKAcKUFISMAcOBLAKOcDUDAcNEMKAcPAUK"]⟩]

end RelaxCompact.CharacterName
